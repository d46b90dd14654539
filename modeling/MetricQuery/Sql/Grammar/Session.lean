import MetricQuery.Sql.Grammar.Recognition

/-!
# Sessions — settings, transactions, cursors and what a session shows of itself

The statements that steer a session and leave the definitions and rows of the tables alone.
-/

namespace MetricQuery.Sql.Grammar

/-! ## Transactions -/

/-- How a transaction is kept apart from others. -/
def transactionModes : List (List String × Parser Unit) :=
  [(["ISOLATION", "LEVEL"], oneBehind
     [alone ["READ", "UNCOMMITTED"], alone ["READ", "COMMITTED"], alone ["REPEATABLE", "READ"],
      alone ["SERIALIZABLE"]]),
   alone ["READ", "ONLY"], alone ["READ", "WRITE"]]

/-- At most `rounds` further modes of a transaction. One has to follow behind a comma. -/
def moreModes (required : Bool) : (rounds : Nat) → Parser Unit
  | 0 => return ()
  | rounds + 1 => do
    if ← oneBehind? transactionModes then moreModes (← symbol? .comma) rounds
    else if required then unexpected

/-- The modes of a transaction, of which there may be none. -/
def modes : Parser Unit := do
  moreModes false ((← remaining) + 1)

/-- The word for a transaction, or nothing. -/
def transactionWord : Parser Unit :=
  optionallyOneOf ["TRANSACTION", "WORK"]

/-- The end of a transaction, and whether another one follows. -/
def transactionEnd : Parser Unit := do
  transactionWord
  behind ["AND"] do
    optionally ["NO"]
    keyword "CHAIN"

/-- A transaction that is undone, or a part of it. -/
def rollBack : Parser Unit := do
  transactionEnd
  behind ["TO"] do
    optionally ["SAVEPOINT"]
    discard ident

/-- A transaction that is begun, behind the keyword. -/
def beginTransaction : Parser Unit := do
  optionallyOneOf ["DEFERRED", "IMMEDIATE", "EXCLUSIVE"]
  transactionWord
  modes

/-! ## Cursors -/

/-- A cursor that is declared, behind the keyword. -/
def declareCursor (inner : Inner) : Parser Unit := do
  discard ident
  optionally ["BINARY"]
  optionallyOneOf ["INSENSITIVE", "ASENSITIVE"]
  discard (oneBehind? [alone ["SCROLL"], alone ["NO", "SCROLL"]])
  keyword "CURSOR"
  if (← oneOfKeywords? ["WITH", "WITHOUT"]).isSome then keyword "HOLD"
  keyword "FOR"
  discard inner.query

/-- Which rows of a cursor are fetched. -/
def fetchDirection : Parser Unit := do
  let count := discard numberLiteral
  let allOrCount : Parser Unit := do
    unless ← keyword? "ALL" do count
  unless ← oneBehind?
      [alone ["NEXT"], alone ["PRIOR"], alone ["FIRST"], alone ["LAST"], (["ABSOLUTE"], count),
       (["RELATIVE"], count), (["FORWARD"], allOrCount), (["BACKWARD"], allOrCount),
       alone ["ALL"]] do
    count

/-- Rows that are fetched from a cursor, behind the keyword. -/
def fetchRows : Parser Unit := do
  fetchDirection
  discard (oneOfKeywords ["FROM", "IN"])
  discard ident
  behind ["INTO"] path

/-! ## Prepared statements and calls -/

/-- A statement that is prepared, behind the keyword. -/
def prepare (inner : Inner) (statement : Parser Unit) : Parser Unit := do
  discard ident
  optionallyInParens (commaList (dataType inner))
  keyword "AS"
  statement

/-- A prepared statement that is run, behind the keyword. -/
def execute (inner : Inner) : Parser Unit := do
  discard path
  if ← symbol? .leftParen then
    discard (inner.listBefore .rightParen)
    symbol .rightParen
  else unless (← get).isEmpty || (← atSymbol .semicolon) || (← atKeyword "USING") do
    discard inner.list
  behind ["USING"] inner.list

/-- A procedure that is called, behind the keyword. -/
def callProcedure (inner : Inner) : Parser Unit := do
  let name ← path
  if ← atSymbol .leftParen then discard (call inner (operand inner) name false)

/-- A condition that has to hold, behind the keyword. -/
def assertion (inner : Inner) : Parser Unit := do
  discard inner.whole
  behind ["AS"] inner.whole

/-! ## Settings -/

/-- A role that is taken on. -/
def setRole : Parser Unit := do
  keyword "ROLE"
  unless ← keyword? "NONE" do discard ident

/-- A value of a setting: a query or an expression. -/
def settingValue (inner : Inner) : Parser SyntaxTree := do
  if ← atQuery then inner.query else inner.whole

/-- Takes the sign or the word in front of the values of a setting. -/
def valuesSign? : Parser Bool :=
  symbol? .equal <||> keyword? "TO"

/-- The values of a setting behind the sign for them; whether they are there. -/
def settingValues? (inner : Inner) : Parser Bool := do
  if ← valuesSign? then
    discard (commaList (settingValue inner))
    return true
  else return false

/-- Several settings at once, behind the opening parenthesis. -/
def manySettings (inner : Inner) : Parser Unit := do
  discard (commaList ident)
  symbol .rightParen
  unless ← valuesSign? do unexpected
  discard (inParens (commaList (settingValue inner)))

/-- The set of characters that a session uses. -/
def characterSet : Parser Unit := do
  unless ← keyword? "DEFAULT" do
    discard literalText
    behind ["COLLATE"] literalText

/-- The modes of the transactions to come, or of the rows that they see. -/
def nextTransaction : Parser Unit := do
  if ← keyword? "SNAPSHOT" then discard literal else modes

/-- A setting of the given name; `bare` tells that no word in front of it says how far it reaches.
Some settings have a form of their own. -/
def oneSetting (inner : Inner) (bare : Bool) (name : String) : Parser Unit := do
  if Text.sameIgnoringAsciiCase name "NAMES" then characterSet
  else if ← settingValues? inner then return ()
  else if Text.sameIgnoringAsciiCase name "TIMEZONE" then discard inner.whole
  else if name == "CHARACTERISTICS" then
    keywords ["AS", "TRANSACTION"]
    modes
  else if name == "TRANSACTION" && bare then nextTransaction
  else unexpected

/-- What is set, behind the keyword. -/
def changeSettings (inner : Inner) : Parser Unit := do
  let scope ← oneOfKeywords? ["SESSION", "LOCAL", "HIVEVAR"]
  let role ← if scope = some "HIVEVAR" then do
      symbol .colon
      pure none
    else attempt setRole
  if role.isNone then
    if ← keywords? ["TIME", "ZONE"] then oneSetting inner scope.isNone "TIMEZONE"
    else if ← symbol? .leftParen then manySettings inner
    else oneSetting inner scope.isNone (renderPath (← path))

/-- A value of a setting that is written by itself. -/
def pragmaValue : Parser Unit := do
  match ← literal with
  | .text .single _ | .text .double _ | .number _ _ | .placeholder _ => return ()
  | _ => unexpected

/-- A setting of the store, behind the keyword. -/
def pragma : Parser Unit := do
  discard path
  if ← atSymbol .leftParen then inParens pragmaValue
  else if ← symbol? .equal then pragmaValue

/-! ## What a session shows -/

/-- The words by which a session picks what it shows, or nothing. -/
def shownFilter (inner : Inner) : Parser Unit := do
  unless ← oneBehind? [(["LIKE"], discard literalText), (["ILIKE"], discard literalText),
      (["WHERE"], discard inner.whole)] do
    discard (attempt literalText)

/-- Whether `STARTS WITH` or `LIMIT` is in front, so that no name is. -/
def atShownBounds : Parser Bool := do
  return (((← get).take 2).map keywordOf == ["STARTS", "WITH"]) || (← atKeyword "LIMIT")

/-- The thing whose parts are shown. -/
def shownParent : Parser Unit := do
  match ← oneOfKeywords? ["ACCOUNT", "DATABASE", "SCHEMA", "TABLE", "VIEW"] with
  | some k =>
    unless ["DATABASE", "SCHEMA"].contains k && (← atShownBounds) do loosePath
  | none =>
    discard path
    if (← oneOfKeywords? ["FROM", "IN"]).isSome then discard ident

/-- What restricts the things that are shown. -/
def shownOptions (inner : Inner) : Parser Unit := do
  if (← oneOfKeywords? ["FROM", "IN"]).isSome then shownParent
  shownFilter inner
  behind ["STARTS", "WITH"] literal
  behind ["LIMIT"] (limit inner)
  behind ["FROM"] literal

/-- The things of a store that are shown, by the words for them. -/
def shownThings (inner : Inner) (external : Bool) : List (List String × Parser Unit) :=
  [(["COLUMNS"], shownOptions inner), (["FIELDS"], shownOptions inner),
   (["TABLES"], do
     unless external do optionally ["HISTORY"]
     shownOptions inner),
   (["MATERIALIZED", "VIEWS"], shownOptions inner), (["VIEWS"], shownOptions inner),
   (["FUNCTIONS"], shownFilter inner)]

/-- The things that are shown, other than those of a store, by the words for them. -/
def shownSettings (inner : Inner) : List (List String × Parser Unit) :=
  let withHistory : Parser Unit := do
    optionally ["HISTORY"]
    shownOptions inner
  [(["CREATE"], do
     discard (oneOfKeywords ["TABLE", "TRIGGER", "FUNCTION", "PROCEDURE", "EVENT", "VIEW"])
     discard path),
   (["COLLATION"], shownFilter inner), (["VARIABLES"], shownFilter inner),
   (["STATUS"], shownFilter inner), (["DATABASES"], withHistory), (["SCHEMAS"], withHistory)]

/-- Whatever is left of the text, up to an equal sign. -/
def restOfText : Parser Unit := do
  set ((← get).dropWhile (· != .symbol .equal))

/-- What is shown, behind the keyword. -/
def showState (inner : Inner) : Parser Unit := do
  optionally ["TERSE"]
  let extended ← keyword? "EXTENDED"
  let full ← keyword? "FULL"
  optionally ["SESSION"]
  optionally ["GLOBAL"]
  let external ← keyword? "EXTERNAL"
  unless ← oneBehind? (shownThings inner external) do
    if extended || full then unexpected
    unless ← oneBehind? (shownSettings inner) do restOfText

end MetricQuery.Sql.Grammar
