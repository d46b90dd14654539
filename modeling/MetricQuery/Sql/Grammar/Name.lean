import MetricQuery.Sql.Grammar.Keyword
import MetricQuery.Sql.Grammar.Parser
import MetricQuery.Sql.Printer.Words

/-!
# Names and literals — the constructs that are read off a few tokens

Names, aliases, literal values and the fields of a date. None of them holds an expression.
-/

namespace MetricQuery.Sql.Grammar

/-! ## Names -/

/-- A word as a name. -/
def identOf (w : Word) : Ident :=
  ⟨w.text, w.quote⟩

/-- A name: a word, or a text between single quotes. -/
def ident : Parser Ident := do
  match ← next with
  | .word w => return identOf w
  | .text .single s => return ⟨s, some '\''⟩
  | _ => unexpected

/-- At most `rounds` further names, each behind a point. -/
def moreNames : (rounds : Nat) → Parser (List Ident)
  | 0 => return []
  | rounds + 1 => do
    if ← symbol? .period then
      let i ← ident
      return i :: (← moreNames rounds)
    else return []

/-- A qualified name. -/
def path : Parser (List Ident) := do
  let i ← ident
  return i :: (← moreNames (← remaining))

/-- Names in parentheses, parted by commas. -/
def namesInParens : Parser (List Ident) :=
  inParens (commaList ident)

/-- Names in parentheses, or nothing. -/
def namesInParens? : Parser (List Ident) := do
  if ← atSymbol .leftParen then namesInParens else return []

/-- A name whose keyword is none of the reserved ones, or any name if `named` tells that `AS`
stands in front; nothing otherwise. -/
def aliasUnless (reserved : List String) (named : Bool) : Parser (Option Ident) := do
  match ← get with
  | .word w :: rest =>
    if named || !reserved.contains w.keyword then
      set rest
      return some (identOf w)
    else return none
  | .text .single s :: rest =>
    set rest
    return some ⟨s, some '\''⟩
  | _ => return none

/-- An alias: a name behind `AS`, or a name alone whose keyword is none of the reserved ones. -/
def optionalAlias (reserved : List String) : Parser (Option Ident) := do
  let named ← keyword? "AS"
  match ← aliasUnless reserved named with
  | some name => return some name
  | none => if named then unexpected else return none

/-! ## Literals -/

/-- A text between single quotes, with escapes or without, or a word that is no keyword. -/
def literalText : Parser String := do
  match ← next with
  | .text .single s | .text .escaped s | .text .unicode s => return s
  | .word w => if isKnownKeyword w.keyword then unexpected else return w.text
  | _ => unexpected

/-- A text between single quotes. -/
def quotedText : Parser String := do
  match ← next with
  | .text .single s => return s
  | _ => unexpected

/-- The name of a placeholder, behind its mark. -/
def placeholderName : Parser String := do
  match ← next with
  | .word w => return w.text
  | .number digits false => return digits
  | _ => unexpected

/-- A literal value. -/
def literal : Parser Literal := do
  match ← next with
  | .number digits long => return .number digits long
  | .text style s => return .text style s
  | .placeholder s => return .placeholder s
  | .symbol .colon => return .placeholder (":" ++ (← placeholderName))
  | .symbol .atSign => return .placeholder ("@" ++ (← placeholderName))
  | .word w =>
    match w.quote, w.keyword with
    | some '"', _ => return .text .double w.text
    | none, "TRUE" => return .boolean true
    | none, "FALSE" => return .boolean false
    | none, "NULL" => return .null
    | _, _ => unexpected
  | _ => unexpected

/-- A number, or a placeholder for one. -/
def numberLiteral : Parser Literal := do
  match ← literal with
  | .number digits long => return .number digits long
  | .placeholder s => return .placeholder s
  | _ => unexpected

/-- The sign in front of a number. -/
def sign? : Parser (Option UnaryOp) := do
  if ← symbol? .plus then return some .plus
  else if ← symbol? .minus then return some .minus
  else return none

/-- The text of a number with the sign in front of it. -/
def signedNumberText : Parser String := do
  let sign ← sign?
  return (sign.map UnaryOp.render).getD "" ++ (← numberLiteral).render

/-! ## Units of time -/

/-- The known fields of a date or a time. -/
def dateFields : List String :=
  ["YEAR", "MONTH", "WEEK", "DAY", "DAYOFWEEK", "DAYOFYEAR", "DATE", "DATETIME", "HOUR", "MINUTE",
   "SECOND", "CENTURY", "DECADE", "DOY", "DOW", "EPOCH", "ISODOW", "ISOYEAR", "ISOWEEK", "JULIAN",
   "MICROSECOND", "MICROSECONDS", "MILLENIUM", "MILLENNIUM", "MILLISECOND", "MILLISECONDS",
   "NANOSECOND", "NANOSECONDS", "QUARTER", "TIME", "TIMEZONE", "TIMEZONE_ABBR", "TIMEZONE_HOUR",
   "TIMEZONE_MINUTE", "TIMEZONE_REGION"]

/-- The fields that may stand behind the value of an interval. -/
def intervalFields : List String :=
  ["YEAR", "MONTH", "WEEK", "DAY", "HOUR", "MINUTE", "SECOND", "CENTURY", "DECADE", "DOW", "DOY",
   "EPOCH", "ISODOW", "ISOYEAR", "JULIAN", "MICROSECOND", "MICROSECONDS", "MILLENIUM",
   "MILLENNIUM", "MILLISECOND", "MILLISECONDS", "NANOSECOND", "NANOSECONDS", "QUARTER",
   "TIMEZONE", "TIMEZONE_HOUR", "TIMEZONE_MINUTE"]

/-- A field of a date or a time: a known one in capitals, or any other name as it is written. -/
def dateField : Parser String := do
  match ← next with
  | .word w =>
    if dateFields.contains w.keyword then
      if ← (pure (w.keyword == "WEEK") <&&> symbol? .leftParen) then
        let day ← ident
        symbol .rightParen
        return "WEEK(" ++ day.render ++ ")"
      else return w.keyword
    else return (identOf w).render
  | .text .single s => return Ident.render ⟨s, some '\''⟩
  | _ => unexpected

end MetricQuery.Sql.Grammar
