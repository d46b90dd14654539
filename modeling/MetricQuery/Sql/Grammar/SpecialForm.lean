import MetricQuery.Sql.Grammar.Call
import MetricQuery.Sql.Grammar.Operator

/-!
# Special forms — the expressions that a keyword opens

Each parser below reads what stands behind the keyword. Whether the keyword has its special meaning
at all may depend on the token behind it (`specialForm?`).
-/

namespace MetricQuery.Sql.Grammar

/-! ## Cases and conversions -/

/-- At most `rounds` branches of a `CASE`, behind the first `WHEN`. -/
def branches (inner : Inner) : (rounds : Nat) → Parser (List (SyntaxTree × SyntaxTree))
  | 0 => return []
  | rounds + 1 => do
    let condition ← inner.whole
    keyword "THEN"
    let result ← inner.whole
    if ← keyword? "WHEN" then
      return (condition, result) :: (← branches inner rounds)
    else return [(condition, result)]

/-- A `CASE`, behind its keyword. -/
def caseForm (inner : Inner) : Parser SyntaxTree := do
  let operand ←
    if ← keyword? "WHEN" then pure []
    else
      let e ← inner.whole
      keyword "WHEN"
      pure [e]
  let pairs ← branches inner (← remaining)
  let otherwise ← clauseBehind ["ELSE"] inner.whole
  keyword "END"
  return .expr (.case (!operand.isEmpty) pairs.length (!otherwise.isEmpty))
    (operand ++ pairs.map (·.1) ++ pairs.map (·.2) ++ otherwise)

/-- How a conversion writes or reads a value, or nothing. -/
def castFormat? : Parser (Option CastFormat) := do
  if ← keyword? "FORMAT" then
    let value ← literal
    let zone ← if ← keywords? ["AT", "TIME", "ZONE"] then pure (some (← literal)) else pure none
    return some ⟨value, zone⟩
  else return none

/-- A conversion to a type, behind its keyword. -/
def castForm (inner : Inner) (style : CastStyle) : Parser SyntaxTree :=
  inParens do
    let e ← inner.whole
    keyword "AS"
    let type ← typeTree inner
    return .expr (.cast style (← castFormat?)) [e, type]

/-- A conversion to a type or to a character set, behind its keyword. -/
def convertForm (inner : Inner) (attempted : Bool) : Parser SyntaxTree :=
  inParens do
    let e ← inner.whole
    if ← keyword? "USING" then
      return .expr (.convert attempted (some (← path))) [e, .absent]
    else
      symbol .comma
      let type ← typeTree inner
      let charset ← if ← keywords? ["CHARACTER", "SET"] then pure (some (← path)) else pure none
      return .expr (.convert attempted charset) [e, type]

/-! ## Functions with words among their arguments -/

/-- An `EXTRACT`, behind its keyword. -/
def extractForm (inner : Inner) : Parser SyntaxTree :=
  inParens do
    let field ← dateField
    let comma ←
      if ← keyword? "FROM" then pure false
      else
        symbol .comma
        pure true
    return .expr (.extract field comma) [← inner.whole]

/-- A rounding, behind its keyword. -/
def roundingForm (inner : Inner) (form : RoundingUnit → ExprForm) : Parser SyntaxTree :=
  inParens do
    let e ← inner.whole
    let unit ←
      if ← keyword? "TO" then pure (.field (← dateField))
      else if ← symbol? .comma then
        match ← literal with
        | .number digits long => pure (.scale (.number digits long))
        | _ => unexpected
      else pure .whole
    return .expr (form unit) [e]

/-- A `POSITION`, behind its keyword. -/
def positionForm (inner : Inner) : Parser SyntaxTree :=
  inParens do
    let sought ← inner.expr Precedence.comparison
    keyword "IN"
    return .expr .position [sought, ← inner.whole]

/-- A `SUBSTRING`, behind its keyword. -/
def substringForm (inner : Inner) : Parser SyntaxTree :=
  inParens do
    let e ← inner.whole
    let comma ← symbol? .comma
    let start ← if ← (pure comma <||> keyword? "FROM") then inner.whole else pure .absent
    let length ←
      if ← (keyword? "FOR" <||> symbol? .comma) then inner.whole else pure .absent
    return .expr (.substring comma) [e, start, length]

/-- An `OVERLAY`, behind its keyword. -/
def overlayForm (inner : Inner) : Parser SyntaxTree :=
  inParens do
    let e ← inner.whole
    keyword "PLACING"
    let put ← inner.whole
    keyword "FROM"
    let start ← inner.whole
    return .expr .overlay [e, put, start, ← exprBehind? inner "FOR"]

/-- A `TRIM`, behind its keyword. -/
def trimForm (inner : Inner) : Parser SyntaxTree :=
  inParens do
    let side ← match ← oneOfKeywords? ["BOTH", "LEADING", "TRAILING"] with
      | some "BOTH" => pure (some TrimSide.both)
      | some "LEADING" => pure (some .leading)
      | some _ => pure (some .trailing)
      | none => pure none
    let e ← inner.whole
    if ← keyword? "FROM" then return .expr (.trim side) [← inner.whole, e]
    else if ← symbol? .comma then return .expr (.trim none) (e :: .absent :: (← inner.list))
    else return .expr (.trim side) [e, .absent]

/-- How a search in columns reads the text that it is given, or nothing. -/
def searchMode? : Parser (Option SearchMode) := do
  if ← keywords? ["IN", "NATURAL", "LANGUAGE", "MODE"] then
    if ← keywords? ["WITH", "QUERY", "EXPANSION"] then return some .naturalLanguageExpanded
    else return some .naturalLanguage
  else if ← keywords? ["IN", "BOOLEAN", "MODE"] then return some .boolean
  else if ← keywords? ["WITH", "QUERY", "EXPANSION"] then return some .expanded
  else return none

/-- A search in columns, behind its keyword. -/
def matchForm : Parser SyntaxTree := do
  let columns ← namesInParens
  keyword "AGAINST"
  inParens do
    let value ← literal
    return .expr (.matchAgainst columns value (← searchMode?)) []

/-! ## Queries, negations and collections -/

/-- An `EXISTS`, behind its keyword. -/
def existsForm (inner : Inner) (negated : Bool) : Parser SyntaxTree :=
  inParens do return .expr (.exists negated) [← inner.query]

/-- A negation, behind its keyword. -/
def notForm (inner : Inner) : Parser SyntaxTree := do
  if ← keyword? "EXISTS" then existsForm inner true
  else return .expr (.unary .not) [← inner.expr Precedence.not]

/-- Expressions in brackets, behind the opening bracket. -/
def arrayForm (inner : Inner) (isNamed : Bool) : Parser SyntaxTree := do
  let items ← inner.listBefore .rightBracket
  symbol .rightBracket
  return .expr (.array isNamed) items

/-- A field of a composite value, which may have a name unless the types of all are given. -/
def compositeValue (inner : Inner) (typed : Bool) : Parser SyntaxTree := do
  let e ← inner.whole
  if ← keyword? "AS" then
    if typed then unexpected
    return .expr (.named (← ident)) [e]
  else return e

/-- A composite value, behind its keyword. -/
def compositeForm (inner : Inner) : Parser SyntaxTree := do
  let (types, closed) ← compositeTypes (nestedType inner)
  if closed then unexpected
  inParens do
    let values ← commaList (compositeValue inner types.isSome)
    return .expr .composite (values ++ [.ofOption (types.map Phrase.toTree)])

/-- A key and its value, with a colon between them. -/
def mapEntry (inner : Inner) : Parser (List SyntaxTree) := do
  let key ← inner.whole
  symbol .colon
  return [key, ← inner.whole]

/-- Keys and values in braces, behind their keyword. -/
def mapForm (inner : Inner) : Parser SyntaxTree := do
  symbol .leftBrace
  let entries ← if ← atSymbol .rightBrace then pure [] else commaList (mapEntry inner)
  symbol .rightBrace
  return .expr .mapping entries.flatten

/-- Names with values in braces, behind the opening one. -/
def dictionaryForm (inner : Inner) : Parser SyntaxTree := do
  let entry : Parser (Ident × SyntaxTree) := do
    let name ← ident
    symbol .colon
    return (name, ← inner.whole)
  let entries ← commaList entry
  symbol .rightBrace
  return .expr (.dictionary (entries.map (·.1))) (entries.map (·.2))

/-- What stands in braces, behind the opening one: a call behind `fn`, or names with values. -/
def bracesForm (inner : Inner) (operand : Parser SyntaxTree) : Parser SyntaxTree := do
  let bracedCall : Parser SyntaxTree := do
    keyword "FN"
    call inner operand (← path) true
  match ← attempt bracedCall with
  | some t =>
    symbol .rightBrace
    return t
  | none => dictionaryForm inner

/-! ## Which word opens what -/

/-- The special form that a word opens whatever follows it, behind the word. -/
def openedForm? (inner : Inner) (operand : Parser SyntaxTree) (w : Word) :
    Option (Parser SyntaxTree) :=
  match w.keyword with
  | "TRUE" => some (return .expr (.literal (.boolean true)) [])
  | "FALSE" => some (return .expr (.literal (.boolean false)) [])
  | "NULL" => some (return .expr (.literal .null) [])
  | "CURRENT_CATALOG" | "CURRENT_USER" | "SESSION_USER" | "USER" =>
    some (return callOf w .absent)
  | "CURRENT_TIMESTAMP" | "CURRENT_TIME" | "CURRENT_DATE" | "LOCALTIME" | "LOCALTIMESTAMP" =>
    some do
      if ← symbol? .leftParen then return callOf w (← arguments inner)
      else return callOf w .absent
  | "CASE" => some (caseForm inner)
  | "CONVERT" => some (convertForm inner false)
  | "TRY_CONVERT" => some (convertForm inner true)
  | "CAST" => some (castForm inner .cast)
  | "TRY_CAST" => some (castForm inner .tryCast)
  | "SAFE_CAST" => some (castForm inner .safeCast)
  | "EXISTS" => some (existsForm inner false)
  | "EXTRACT" => some (extractForm inner)
  | "CEIL" => some (roundingForm inner .ceil)
  | "FLOOR" => some (roundingForm inner .floor)
  | "SUBSTRING" => some (substringForm inner)
  | "OVERLAY" => some (overlayForm inner)
  | "TRIM" => some (trimForm inner)
  | "INTERVAL" => some (interval operand)
  | "NOT" => some (notForm inner)
  | "MATCH" => some matchForm
  | "STRUCT" => some (compositeForm inner)
  | _ => none

/-- The special form that a word opens in front of the token ahead, behind the word. -/
def specialForm? (inner : Inner) (operand : Parser SyntaxTree) (w : Word) (ahead : Option Token) :
    Option (Parser SyntaxTree) :=
  match w.keyword, ahead with
  | "POSITION", some (.symbol .leftParen) => some do
    match ← attempt (positionForm inner) with
    | some t => return t
    | none => call inner operand [identOf w] false
  | "ARRAY", some (.symbol .leftBracket) => some do
    symbol .leftBracket
    arrayForm inner true
  | "ARRAY", some (.symbol .leftParen) => some do
    return callOf w (.clause .queryArguments [← inParens inner.query])
  | "MAP", some (.symbol .leftBrace) => some (mapForm inner)
  | "PRIOR", _ =>
    if inner.linksRows then
      some (return .expr (.unary .prior) [← inner.expr Precedence.sum])
    else none
  | _, _ => openedForm? inner operand w

end MetricQuery.Sql.Grammar
