import MetricQuery.Sql.Grammar.Recognition

/-!
# Changes of rows — statements that delete, merge and copy rows

Rows that are copied in stand in the text themselves, behind the statement.
-/

namespace MetricQuery.Sql.Grammar

/-! ## Deleting -/

/-- Rows that are deleted, behind the keyword. -/
def deleteRows (inner : Inner) : Parser Unit := do
  optionally ["FROM"]
  joinedTables inner
  behind ["USING"] (joinedTables inner)
  optionalWhere inner
  discard (returning? inner)
  discard (orderBy? inner)
  behind ["LIMIT"] (limit inner)

/-- Tables that are emptied, behind the keyword. -/
def truncateTables (inner : Inner) : Parser Unit := do
  optionally ["TABLE"]
  optionally ["ONLY"]
  discard (commaList path)
  behind ["PARTITION"] (exprsInParens inner)
  discard (oneBehind? [alone ["RESTART", "IDENTITY"], alone ["CONTINUE", "IDENTITY"]])
  dropBehavior
  onCluster

/-! ## Merging -/

/-- What happens to rows of one kind in a merge: only rows that are there already are changed or
deleted, and only rows that are not are added. -/
def mergeAction (inner : Inner) (adds : Bool) : Parser Unit := do
  match ← oneOfKeywords (if adds then ["INSERT"] else ["UPDATE", "DELETE"]) with
  | "INSERT" =>
    discard namesInParens?
    unless ← keyword? "ROW" do
      keyword "VALUES"
      discard (valuesBody inner)
  | "UPDATE" =>
    keyword "SET"
    discard (assignments inner)
  | _ => return ()

/-- A rule of a merge. -/
def mergeRule (inner : Inner) : Parser Unit := do
  keyword "WHEN"
  let unmatched ← keyword? "NOT"
  keyword "MATCHED"
  let bySource ← if unmatched then keywords? ["BY", "SOURCE"] else pure false
  if unmatched && !bySource then optionally ["BY", "TARGET"]
  behind ["AND"] inner.whole
  keyword "THEN"
  mergeAction inner (unmatched && !bySource)

/-- At most `rounds` rules of a merge, up to the end of the statement. -/
def mergeRules (inner : Inner) : (rounds : Nat) → Parser Unit
  | 0 => return ()
  | rounds + 1 => do
    unless (← get).isEmpty || (← atSymbol .semicolon) do
      mergeRule inner
      mergeRules inner rounds

/-- Rows that are merged into a table, behind the keyword. -/
def mergeRows (inner : Inner) : Parser Unit := do
  optionally ["INTO"]
  discard (table inner)
  keyword "USING"
  discard (table inner)
  keyword "ON"
  discard inner.whole
  mergeRules inner (← remaining)

/-! ## Copying -/

/-- A text of one byte. -/
def byteText : Parser Unit := do
  if (← literalText).utf8ByteSize != 1 then unexpected

/-- A text of one byte or any text, which `AS` may stand before. -/
def markText (p : Parser Unit) : Parser Unit := do
  optionally ["AS"]
  p

/-- An option of a copy, in parentheses with others. -/
def copyOption : Parser Unit := do
  let flag := optionallyOneOf ["TRUE", "FALSE"]
  let text := discard literalText
  let columns := discard namesInParens
  oneBehind
    [(["FORMAT"], discard ident), (["FREEZE"], flag), (["HEADER"], flag), (["DELIMITER"], byteText),
     (["QUOTE"], byteText), (["ESCAPE"], byteText), (["NULL"], text), (["ENCODING"], text),
     (["FORCE_QUOTE"], columns), (["FORCE_NOT_NULL"], columns), (["FORCE_NULL"], columns)]

/-- At most `rounds` constructs, as far as they can be read. -/
def attempts (p : Parser Unit) : (rounds : Nat) → Parser Unit
  | 0 => return ()
  | rounds + 1 => do
    if (← attempt p).isSome then attempts p rounds

/-- A remark on how the fields of a copied row are parted. -/
def fieldOption : Parser Unit :=
  oneBehind
    [alone ["HEADER"], (["QUOTE"], markText byteText), (["ESCAPE"], markText byteText),
     (["FORCE", "NOT", "NULL"], discard (commaList ident)),
     (["FORCE", "QUOTE"], discard (commaList ident))]

/-- An option of a copy that stands by itself. -/
def bareCopyOption : Parser Unit :=
  oneBehind
    [alone ["BINARY"], (["DELIMITER"], markText byteText),
     (["NULL"], markText (discard literalText)),
     (["CSV"], do attempts fieldOption (← remaining))]

/-- What is left behind the rows that are copied in. A backslash and a point end them; a backslash
takes any other token with it. -/
def behindRows : List Token → List Token
  | .symbol .backslash :: .symbol .period :: rest => rest
  | .symbol .backslash :: _ :: rest => behindRows rest
  | _ :: rest => behindRows rest
  | [] => []

/-- Where rows are copied to or from; whether they stand in the text. -/
def copyPlace : Parser Bool := do
  if ← keyword? "STDIN" then return true
  unless ← keyword? "STDOUT" do
    optionally ["PROGRAM"]
    discard literalText
  return false

/-- Rows that are copied, behind the keyword. The rows of a query are only copied out. -/
def copyRows (inner : Inner) : Parser Unit := do
  if ← atSymbol .leftParen then
    discard (inParens inner.query)
    keyword "TO"
  else
    discard path
    discard namesInParens?
    discard (oneOfKeywords ["FROM", "TO"])
  let inText ← copyPlace
  optionally ["WITH"]
  optionallyInParens (commaList copyOption)
  attempts bareCopyOption (← remaining)
  if inText then
    symbol .semicolon
    set (behindRows (← get))

/-- The rows of a query that are put into a file, behind the keyword. -/
def unloadRows (inner : Inner) : Parser Unit := do
  discard (inParens inner.query)
  keyword "TO"
  discard ident
  options inner "WITH"

end MetricQuery.Sql.Grammar
