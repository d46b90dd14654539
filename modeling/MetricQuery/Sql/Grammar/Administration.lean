import MetricQuery.Sql.Grammar.Recognition

/-!
# Administration — upkeep of a store, and who may do what in it
-/

namespace MetricQuery.Sql.Grammar

/-! ## Processes and logs -/

/-- A process that is stopped, behind the keyword. -/
def killProcess : Parser Unit := do
  optionallyOneOf ["CONNECTION", "QUERY", "MUTATION"]
  discard natural

/-- At most `rounds` words on the tables that are flushed. The first token that is no word is taken
and ends them. -/
def flushedTables : (rounds : Nat) → Parser Unit
  | 0 => return ()
  | rounds + 1 => do
    match ← get with
    | .word w :: rest =>
      if w.keyword == "WITH" then
        set rest
        optionally ["READ", "LOCK"]
      else if w.keyword == "FOR" then
        set rest
        optionally ["EXPORT"]
      else if isKnownKeyword w.keyword then set rest
      else discard (commaList path)
      flushedTables rounds
    | tokens => set tokens.tail

/-- What is flushed, behind the keyword. -/
def flush : Parser Unit := do
  optionallyOneOf ["NO_WRITE_TO_BINLOG", "LOCAL"]
  oneBehind
    [alone ["BINARY", "LOGS"], alone ["ENGINE", "LOGS"], alone ["ERROR", "LOGS"],
     alone ["GENERAL", "LOGS"], alone ["HOSTS"], alone ["PRIVILEGES"], alone ["OPTIMIZER_COSTS"],
     (["RELAY", "LOGS"], behind ["FOR", "CHANNEL"] path), alone ["SLOW", "LOGS"], alone ["STATUS"],
     alone ["USER_RESOURCES"], alone ["LOGS"],
     (["TABLES"], do flushedTables ((← remaining) + 1))]

/-! ## Tables -/

/-- A table whose rows are counted, behind the keyword. -/
def analyze (inner : Inner) : Parser Unit := do
  keyword "TABLE"
  discard path
  manyBehind
    [(["PARTITION"], exprsInParens inner), alone ["NOSCAN"],
     (["FOR"], do
       keyword "COLUMNS"
       discard (attempt (commaList ident))),
     (["CACHE"], keyword "METADATA"), (["COMPUTE"], keyword "STATISTICS")]

/-- A table whose parts are looked up again, behind the keyword. -/
def repair : Parser Unit := do
  optionally ["REPAIR"]
  keyword "TABLE"
  discard path
  discard <| attempt do
    optionallyOneOf ["ADD", "DROP", "SYNC"]
    keyword "PARTITIONS"

/-- A table whose files are put in order, behind the keyword. -/
def optimize (inner : Inner) : Parser Unit := do
  keyword "TABLE"
  discard path
  onCluster
  behind ["PARTITION"] do
    unless ← behind? ["ID"] ident do discard inner.whole
  optionally ["FINAL"]
  behind ["DEDUPLICATE"] (behind ["BY"] inner.whole)

/-- The rows that are cached, if the text goes on. -/
def cachedRows (inner : Inner) : Parser Unit := do
  options inner "OPTIONS"
  unless (← get).isEmpty do
    unless ← atWord do unexpected
    optionally ["AS"]
    discard inner.query

/-- A table that is cached, behind the keyword. -/
def cacheTable (inner : Inner) : Parser Unit := do
  unless ← keyword? "TABLE" do
    discard path
    keyword "TABLE"
  discard path
  cachedRows inner

/-- A table that is cached no longer, behind the keyword. -/
def uncacheTable : Parser Unit := do
  keyword "TABLE"
  ifExists
  discard path

/-! ## Databases and remarks -/

/-- A database that is attached, behind the keyword. -/
def attachDatabase (inner : Inner) : Parser Unit := do
  optionally ["DATABASE"]
  discard inner.whole
  keyword "AS"
  discard ident

/-- A database that is detached, behind the keyword. -/
def detachDatabase : Parser Unit := do
  optionally ["DATABASE"]
  ifExists
  discard ident

/-- A remark on a thing, behind the keyword. -/
def commentOn : Parser Unit := do
  ifExists
  keyword "ON"
  discard <|
    oneOfKeywords ["COLUMN", "TABLE", "EXTENSION", "SCHEMA", "DATABASE", "USER", "ROLE"]
  discard path
  keyword "IS"
  unless ← keyword? "NULL" do discard literalText

/-! ## Privileges -/

/-- What somebody may do, with the columns it is about. -/
def privilege : Parser Unit := do
  let k ← oneOfKeywords ["CONNECT", "CREATE", "DELETE", "EXECUTE", "INSERT", "REFERENCES", "SELECT",
    "TEMPORARY", "TRIGGER", "TRUNCATE", "UPDATE", "USAGE"]
  if ["INSERT", "REFERENCES", "SELECT", "UPDATE"].contains k then discard namesInParens?

/-- What somebody may do with which things. -/
def privileges : Parser Unit := do
  if ← keyword? "ALL" then optionally ["PRIVILEGES"] else discard (commaList privilege)
  keyword "ON"
  unless ← (keywords? ["ALL", "TABLES", "IN", "SCHEMA"]
      <||> keywords? ["ALL", "SEQUENCES", "IN", "SCHEMA"]) do
    optionallyOneOf ["SEQUENCE", "SCHEMA", "TABLE"]
  discard (commaList path)

/-- Privileges that are given, behind the keyword. -/
def grant : Parser Unit := do
  privileges
  keyword "TO"
  discard (commaList ident)
  optionally ["WITH", "GRANT", "OPTION"]
  behind ["GRANTED", "BY"] ident

/-- Privileges that are taken away, behind the keyword. -/
def revoke : Parser Unit := do
  privileges
  keyword "FROM"
  discard (commaList ident)
  behind ["GRANTED", "BY"] ident
  discard strictDropBehavior

end MetricQuery.Sql.Grammar
