import MetricQuery.Sql.Grammar.Select

/-!
# Changes — `INSERT` and `UPDATE`

Either may stand in the place of a query body, behind common tables that it reads.
-/

namespace MetricQuery.Sql.Grammar

/-! ## Parts -/

/-- What happens to a row that breaks a constraint, or nothing. -/
def conflictRule? : Parser (Option ConflictRule) := do
  if ← keywords? ["OR", "REPLACE"] then return some .replace
  else if ← keywords? ["OR", "ROLLBACK"] then return some .rollback
  else if ← keywords? ["OR", "ABORT"] then return some .abort
  else if ← keywords? ["OR", "FAIL"] then return some .fail
  else if ← keywords? ["OR", "IGNORE"] then return some .ignore
  else return if ← keyword? "REPLACE" then some .replace else none

/-- The column, or the columns in parentheses, that an assignment changes. -/
def assignedColumns : Parser (Listed (List Ident)) :=
  listed path

/-- An assignment of a value to a column, or of values to columns. -/
def assignment (inner : Inner) : Parser SyntaxTree := do
  let columns ← assignedColumns
  symbol .equal
  return .clause (.assignment columns) [← inner.whole]

/-- Assignments parted by commas. -/
def assignments (inner : Inner) : Parser (List SyntaxTree) :=
  commaList (assignment inner)

/-- The items that a change answers with, or nothing. -/
def returning? (inner : Inner) : Parser SyntaxTree := do
  if ← keyword? "RETURNING" then return .clause .returning (← commaList (selectItem inner))
  else return .absent

/-! ## `INSERT` -/

/-- How urgent an `INSERT` is, or nothing. -/
def insertPriority? : Parser (Option InsertPriority) := do
  match ← oneOfKeywords? ["LOW_PRIORITY", "DELAYED", "HIGH_PRIORITY"] with
  | some "LOW_PRIORITY" => return some .low
  | some "DELAYED" => return some .delayed
  | some _ => return some .high
  | none => return none

/-- The formats of files. -/
def fileFormats : List String :=
  ["AVRO", "JSONFILE", "ORC", "PARQUET", "RCFILE", "SEQUENCEFILE", "TEXTFILE"]

/-- An `INSERT` into a directory, behind the keyword. -/
def insertDirectory (inner : Inner) (overwrites isLocal : Bool) : Parser SyntaxTree := do
  let path ← literalText
  let format ←
    if ← keywords? ["STORED", "AS"] then pure (some (← oneOfKeywords fileFormats)) else pure none
  return .clause (.insertDirectory overwrites isLocal path format) [← inner.query]

/-- The partition that rows are put into, or nothing. -/
def insertPartition? (inner : Inner) : Parser SyntaxTree := do
  if ← keyword? "PARTITION" then return .clause .insertPartition (← inParens inner.list)
  else return .absent

/-- Whether a `SELECT` in parentheses is in front. -/
def atSelectInParens : Parser Bool := do
  match ← get with
  | .symbol .leftParen :: t :: _ => return keywordOf t == "SELECT"
  | _ => return false

/-- The columns, the rows and the partition that an `INSERT` gives. -/
def insertSource (inner : Inner) : Parser (List Ident × SyntaxTree × SyntaxTree) := do
  if ← keywords? ["DEFAULT", "VALUES"] then return ([], .absent, .absent)
  else if ← atSelectInParens then return ([], ← inner.query, .absent)
  else
    let columns ← namesInParens?
    let partition ← insertPartition? inner
    return (columns, ← inner.query, partition)

/-- The names of the new row and of its columns, or nothing. -/
def rowName? : Parser (Option (List Ident × List Ident)) := do
  if ← keyword? "AS" then
    let name ← path
    return some (name, ← namesInParens?)
  else return none

/-- The constraint that a conflict is about, or nothing. -/
def conflictTarget? : Parser (Option ConflictTarget) := do
  if ← keywords? ["ON", "CONSTRAINT"] then return some (.constraint (← path))
  else if ← atSymbol .leftParen then return some (.columns (← namesInParens))
  else return none

/-- What becomes of a row that is there already, behind `ON`. -/
def onInsert (inner : Inner) : Parser SyntaxTree := do
  if ← keyword? "CONFLICT" then
    let target ← conflictTarget?
    keyword "DO"
    if ← keyword? "NOTHING" then return .clause (.onConflict target false) []
    keywords ["UPDATE", "SET"]
    let changes ← assignments inner
    let condition ← clauseBehind ["WHERE"] (return .clause .where [← inner.whole])
    return .clause (.onConflict target true) (changes ++ condition)
  else
    keywords ["DUPLICATE", "KEY", "UPDATE"]
    return .clause .onDuplicateKey (← assignments inner)

/-- An `INSERT`, behind its keyword. -/
def insert (inner : Inner) : Parser SyntaxTree := do
  let rule ← conflictRule?
  let priority ← insertPriority?
  let ignores ← keyword? "IGNORE"
  let overwrites ← keyword? "OVERWRITE"
  let intoWord ← keyword? "INTO"
  let isLocal ← keyword? "LOCAL"
  if ← keyword? "DIRECTORY" then insertDirectory inner overwrites isLocal
  else
    let tableWord ← keyword? "TABLE"
    let name ← path
    let (columns, rows, partition) ← insertSource inner
    let rowName ← rowName?
    let conflict ← if ← keyword? "ON" then onInsert inner else pure .absent
    let returning ← returning? inner
    let target := { rule, priority, ignores, overwrites, intoWord, tableWord, name, columns,
                    rowName }
    return .clause (.insert target) [rows, partition, conflict, returning]

/-! ## `UPDATE` -/

/-- An `UPDATE`, behind its keyword. -/
def update (inner : Inner) : Parser SyntaxTree := do
  let rule ← conflictRule?
  let tables ← joinedTable inner
  keyword "SET"
  let changes := .clause .assignments (← assignments inner)
  let sources ←
    if ← keyword? "FROM" then pure (.clause .from [← joinedTable inner]) else pure .absent
  let condition ← exprClause inner "WHERE" .where
  return .clause (.update rule) [tables, changes, sources, condition, ← returning? inner]

end MetricQuery.Sql.Grammar
