import MetricQuery.Sql.Grammar.Recognition

/-!
# Tables that are defined — columns, constraints and the form in which rows are kept

What stands behind the name of a new table. The clauses stand in a fixed order, and most of them may
be missing.
-/

namespace MetricQuery.Sql.Grammar

/-! ## Constraints -/

/-- The word by which a constraint may call itself an index. -/
def indexWord : Parser Unit :=
  optionallyOneOf ["KEY", "INDEX"]

/-- The way an index is kept, or nothing. -/
def usingMethod : List String × Parser Unit :=
  (["USING"], discard (oneOfKeywords ["BTREE", "HASH"]))

/-- Whether null values count as different, or nothing. -/
def nullsDistinct : Parser Unit :=
  behind ["NULLS"] do
    optionally ["NOT"]
    keyword "DISTINCT"

/-- The columns of an index, behind its name and the way it is kept. -/
def indexedColumns : Parser Unit := do
  discard (oneBehind? [usingMethod])
  discard namesInParens

/-- The columns of a key, and what is said about the index behind it. -/
def keyColumns : Parser Unit := do
  discard (attempt ident)
  indexedColumns
  manyBehind [usingMethod, (["COMMENT"], discard literalText)]
  discard constraintTiming

/-- A key that refers to another table. -/
def foreignKey : Parser Unit := do
  keyword "KEY"
  discard namesInParens
  keyword "REFERENCES"
  discard path
  discard namesInParens
  discard referentialActionsText
  discard constraintTiming

/-- An index over the words or the places in columns. -/
def searchIndex : Parser Unit := do
  indexWord
  discard (attempt ident)
  discard namesInParens

/-- An index that is no key. -/
def plainIndex : Parser Unit := do
  unless ← atKeyword "USING" do discard (attempt ident)
  indexedColumns

/-- The constraints that may have a name, by the words that open them. -/
def constraints (inner : Inner) : List (List String × Parser Unit) :=
  [(["UNIQUE"], do indexWord; nullsDistinct; keyColumns),
   (["PRIMARY"], do keyword "KEY"; keyColumns),
   (["FOREIGN"], foreignKey),
   (["CHECK"], exprInParens inner)]

/-- The indexes that stand among constraints and take no name in front. -/
def indexes : List (List String × Parser Unit) :=
  [(["INDEX"], plainIndex), (["KEY"], plainIndex), (["FULLTEXT"], searchIndex),
   (["SPATIAL"], searchIndex)]

/-- A constraint on the rows of a table; whether there is one. -/
def tableConstraint? (inner : Inner) : Parser Bool := do
  if ← behind? ["CONSTRAINT"] ident then
    oneBehind (constraints inner)
    return true
  else oneBehind? (constraints inner ++ indexes)

/-! ## Columns -/

/-- A column of a table, or a constraint on its rows. -/
def columnOrConstraint (inner : Inner) : Parser Unit := do
  unless ← tableConstraint? inner do
    unless ← atWord do unexpected
    discard (columnDefinition inner)

/-- The columns and constraints of a table, of which there may be none. -/
def columns? (inner : Inner) : Parser Unit := do
  if ← symbol? .leftParen then
    unless ← symbol? .rightParen do
      discard (commaList (columnOrConstraint inner))
      symbol .rightParen

/-- The columns by which the rows of a table are parted. -/
def partitionedBy (inner : Inner) : Parser Unit :=
  behind ["PARTITIONED", "BY"] (inParens (commaList (columnDefinition inner)))

/-! ## How rows are kept -/

/-- The buckets that rows are put into. -/
def clusteredBy (inner : Inner) : Parser Unit :=
  behind ["CLUSTERED", "BY"] do
    discard namesInParens
    behind ["SORTED", "BY"] (inParens (orderItems inner))
    keyword "INTO"
    discard numberLiteral
    keyword "BUCKETS"

/-- The marks between the fields of a row that is kept as text. A word that opens none of them is
taken and ends them. -/
def rowMarks : (rounds : Nat) → Parser Unit
  | 0 => return ()
  | rounds + 1 => do
    let marks := [("FIELDS", ["TERMINATED", "BY"]), ("COLLECTION", ["ITEMS", "TERMINATED", "BY"]),
      ("MAP", ["KEYS", "TERMINATED", "BY"]), ("LINES", ["TERMINATED", "BY"]),
      ("NULL", ["DEFINED", "AS"])]
    match ← oneOfKeywords? (marks.map (·.1)) with
    | none => return ()
    | some k =>
      if ← behind? ((marks.lookup k).getD []) ident then
        if k == "FIELDS" then behind ["ESCAPED", "BY"] ident
        rowMarks rounds

/-- How a row is kept as text. -/
def rowFormat : Parser Unit := do
  keyword "FORMAT"
  if ← keyword? "SERDE" then discard literalText
  else
    optionally ["DELIMITED"]
    rowMarks (← remaining)

/-- The files that rows are kept in. -/
def storedAs (inner : Inner) : Parser Unit := do
  keyword "AS"
  if ← behind? ["INPUTFORMAT"] inner.whole then
    keyword "OUTPUTFORMAT"
    discard inner.whole
  else discard (oneOfKeywords fileFormats)

/-- How and where rows are kept. -/
def storage (inner : Inner) : Parser Unit :=
  manyBehind
    [(["ROW"], rowFormat), (["STORED"], storedAs inner), (["LOCATION"], discard literalText),
     (["WITH", "SERDEPROPERTIES"], discard (inParens (commaList (namedOption inner))))]

/-- The machine that keeps a table, with names in parentheses. -/
def engine : Parser Unit :=
  behind ["ENGINE"] do
    symbol .equal
    anyWord
    discard namesInParens?

/-- The first number of a column that counts up, as a 32-bit word. -/
def firstCount : Parser Unit :=
  behind ["AUTO_INCREMENT"] do
    discard (symbol? .equal)
    if 4294967296 ≤ (← natural) then unexpected

/-- The expressions by which the rows of a table are ordered. -/
def tableOrder (inner : Inner) : Parser Unit :=
  behind ["ORDER", "BY"] do
    if ← symbol? .leftParen then
      discard (inner.listBefore .rightParen)
      symbol .rightParen
    else discard inner.whole

/-- A word behind keywords and an equal sign, or nothing. -/
def wordSetting (ks : List String) : Parser Unit :=
  behind ks do
    symbol .equal
    anyWord

/-- A remark on what is defined, or nothing; whether the sign in front of it may be missing. -/
def remark (signOptional : Bool) : Parser Unit :=
  behind ["COMMENT"] do
    unless (← symbol? .equal) || signOptional do unexpected
    quotedText

/-! ## Tables -/

/-- A new table, behind its keyword. -/
def tableDefinition (inner : Inner) : Parser Unit := do
  ifNotExists
  discard path
  onCluster
  if (← oneOfKeywords? ["LIKE", "ILIKE"]).isSome then loosePath
  behind ["CLONE"] loosePath
  columns? inner
  optionally ["WITHOUT", "ROWID"]
  partitionedBy inner
  clusteredBy inner
  storage inner
  options inner "WITH"
  options inner "TBLPROPERTIES"
  engine
  firstCount
  behind ["PRIMARY", "KEY"] inner.whole
  tableOrder inner
  behind ["PARTITION", "BY"] inner.whole
  behind ["CLUSTER", "BY"] (commaList ident)
  options inner "OPTIONS"
  wordSetting ["DEFAULT", "CHARSET"]
  wordSetting ["COLLATE"]
  behind ["ON", "COMMIT"] <| oneBehind
    [alone ["DELETE", "ROWS"], alone ["PRESERVE", "ROWS"], alone ["DROP"]]
  optionally ["STRICT"]
  remark true
  behind ["AS"] inner.query

/-- A table that is kept elsewhere, behind the keywords. -/
def externalTable (inner : Inner) : Parser Unit := do
  ifNotExists
  discard path
  columns? inner
  partitionedBy inner
  storage inner
  options inner "TBLPROPERTIES"

end MetricQuery.Sql.Grammar
