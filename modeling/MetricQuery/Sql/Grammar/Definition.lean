import MetricQuery.Sql.Grammar.TableDefinition

/-!
# Definitions — what is created and what is dropped

The statements that bring a thing into being or do away with it: tables and views, functions,
triggers, indexes, roles and the like.
-/

namespace MetricQuery.Sql.Grammar

/-! ## Views and policies -/

/-- A column of a view, with an option if it has one. -/
def viewColumn (inner : Inner) : Parser Unit := do
  discard ident
  if (← atKeyword "OPTIONS") || (← atKeyword "COMMENT") then discard (columnOption? inner)

/-- The columns of a view, of which there may be none. -/
def viewColumns (inner : Inner) : Parser Unit := do
  if ← symbol? .leftParen then
    unless ← symbol? .rightParen do
      discard (commaList (viewColumn inner))
      symbol .rightParen

/-- A view, behind its keyword. -/
def viewDefinition (inner : Inner) : Parser Unit := do
  ifNotExists
  discard path
  viewColumns inner
  options inner "WITH"
  behind ["CLUSTER"] do
    keyword "BY"
    discard namesInParens?
  options inner "OPTIONS"
  behind ["TO"] path
  remark false
  keyword "AS"
  discard inner.query
  optionally ["WITH", "NO", "SCHEMA", "BINDING"]

/-- Whom a policy holds for and what it allows. -/
def policyClauses (inner : Inner) : Parser Unit := do
  behind ["TO"] (commaList owner)
  behind ["USING"] (exprInParens inner)
  behind ["WITH", "CHECK"] (exprInParens inner)

/-- A policy on the rows of a table, behind its keyword. -/
def policyDefinition (inner : Inner) : Parser Unit := do
  discard ident
  keyword "ON"
  discard path
  behind ["AS"] (oneOfKeywords ["PERMISSIVE", "RESTRICTIVE"])
  behind ["FOR"] (oneOfKeywords ["ALL", "SELECT", "INSERT", "UPDATE", "DELETE"])
  policyClauses inner

/-! ## Functions and procedures -/

/-- What the properties of a function are about; each is told at most once. -/
inductive FunctionProperty where
  | body | language | behavior | nullCall | parallelism
  deriving DecidableEq

/-- The body of a function as a text. -/
def bodyText : Parser Unit := do
  match ← get with
  | .text (.dollar _) _ :: rest => set rest
  | _ => discard literalText

/-- A property of a function, or nothing. -/
def functionProperty? (inner : Inner) : Parser (Option FunctionProperty) := do
  if ← behind? ["AS"] bodyText then return some .body
  else if ← behind? ["RETURN"] inner.whole then return some .body
  else if ← behind? ["LANGUAGE"] ident then return some .language
  else if (← oneOfKeywords? ["IMMUTABLE", "STABLE", "VOLATILE"]).isSome then return some .behavior
  else if ← oneBehind? [alone ["CALLED", "ON", "NULL", "INPUT"],
      alone ["RETURNS", "NULL", "ON", "NULL", "INPUT"], alone ["STRICT"]] then
    return some .nullCall
  else if ← behind? ["PARALLEL"] (oneOfKeywords ["UNSAFE", "RESTRICTED", "SAFE"]) then
    return some .parallelism
  else return none

/-- At most `rounds` further properties of a function, none of them told before. -/
def functionProperties (inner : Inner) (told : List FunctionProperty) : (rounds : Nat) → Parser Unit
  | 0 => return ()
  | rounds + 1 => do
    match ← functionProperty? inner with
    | none => return ()
    | some p => if told.contains p then unexpected else functionProperties inner (p :: told) rounds

/-- Constructs in parentheses, parted by commas, of which there may be none. -/
def possiblyNone {α : Type} (p : Parser α) : Parser Unit := do
  symbol .leftParen
  unless ← symbol? .rightParen do
    discard (commaList p)
    symbol .rightParen

/-- A function, behind its keyword. -/
def functionDefinition (inner : Inner) : Parser Unit := do
  discard path
  possiblyNone (functionArgument inner)
  behind ["RETURNS"] (dataType inner)
  functionProperties inner [] (← remaining)

/-- An argument of a macro, with its default if it has one. -/
def macroArgument (inner : Inner) : Parser Unit := do
  discard ident
  if ← (symbol? .assign <||> symbol? .fatArrow) then discard inner.whole

/-- A macro, behind its keyword. -/
def macroDefinition (inner : Inner) : Parser Unit := do
  discard path
  possiblyNone (macroArgument inner)
  keyword "AS"
  if ← keyword? "TABLE" then discard inner.query else discard inner.whole

/-- At most `rounds` parameters of a procedure. A comma may stand where a parameter is missing. -/
def procedureParameters (inner : Inner) : (rounds : Nat) → Parser Unit
  | 0 => unexpected
  | rounds + 1 => do
    if ← atWord then
      discard ident
      discard (dataType inner)
    let more ← symbol? .comma
    if ← symbol? .rightParen then return ()
    else if more then procedureParameters inner rounds
    else unexpected

/-- A procedure, behind its keyword. -/
def procedureDefinition (inner : Inner) (body : Parser Unit) : Parser Unit := do
  discard path
  if ← symbol? .leftParen then
    unless ← symbol? .rightParen do procedureParameters inner (← remaining)
  keywords ["AS", "BEGIN"]
  body
  keyword "END"

/-! ## Triggers -/

/-- A change that sets off a trigger. -/
def triggerEvent : Parser Unit := do
  if (← oneOfKeywords ["INSERT", "UPDATE", "DELETE", "TRUNCATE"]) == "UPDATE" then
    behind ["OF"] (commaList ident)

/-- At most `rounds` further changes that set off a trigger. -/
def moreTriggerEvents : (rounds : Nat) → Parser Unit
  | 0 => return ()
  | rounds + 1 => do
    if ← behind? ["OR"] triggerEvent then moreTriggerEvents rounds

/-- At most `rounds` tables of changed rows, with their names. A word that no table follows is taken
and ends them. -/
def changedRows : (rounds : Nat) → Parser Unit
  | 0 => return ()
  | rounds + 1 => do
    if ← ((·.isSome) <$> oneOfKeywords? ["OLD", "NEW"] <&&> keyword? "TABLE") then
      optionally ["AS"]
      discard path
      changedRows rounds

/-- A trigger, behind its keyword. -/
def triggerDefinition (inner : Inner) : Parser Unit := do
  discard path
  oneBehind [alone ["BEFORE"], alone ["AFTER"], (["INSTEAD"], keyword "OF")]
  triggerEvent
  moreTriggerEvents (← remaining)
  keyword "ON"
  discard path
  behind ["FROM"] loosePath
  discard constraintTiming
  behind ["REFERENCING"] do changedRows (← remaining)
  keyword "FOR"
  optionally ["EACH"]
  discard (oneOfKeywords ["ROW", "STATEMENT"])
  behind ["WHEN"] inner.whole
  keyword "EXECUTE"
  discard (oneOfKeywords ["FUNCTION", "PROCEDURE"])
  functionName inner

/-! ## Indexes, sequences and types -/

/-- An index, behind its keyword. -/
def indexDefinition (inner : Inner) : Parser Unit := do
  optionally ["CONCURRENTLY"]
  let needsName ← keywords? ["IF", "NOT", "EXISTS"]
  unless ← (pure !needsName <&&> keyword? "ON") do
    discard path
    keyword "ON"
  discard path
  behind ["USING"] ident
  discard (inParens (orderItems inner))
  behind ["INCLUDE"] namesInParens
  nullsDistinct
  behind ["WITH"] (exprsInParens inner)
  optionalWhere inner

/-- A sequence of numbers, behind its keyword. -/
def sequenceDefinition (inner : Inner) : Parser Unit := do
  ifNotExists
  discard path
  behind ["AS"] (dataType inner)
  discard sequenceOptions
  behind ["OWNED", "BY"] do
    unless ← keyword? "NONE" do discard path

/-- At most `rounds` attributes of a composite type. A comma may stand behind the last one. -/
def typeAttributes (inner : Inner) : (rounds : Nat) → Parser Unit
  | 0 => unexpected
  | rounds + 1 => do
    discard ident
    discard (dataType inner)
    behind ["COLLATE"] path
    let more ← symbol? .comma
    if ← symbol? .rightParen then return ()
    else if more then typeAttributes inner rounds
    else unexpected

/-- A type, behind its keyword. -/
def typeDefinition (inner : Inner) : Parser Unit := do
  discard path
  keyword "AS"
  if ← symbol? .leftParen then
    unless ← symbol? .rightParen do typeAttributes inner (← remaining)

/-! ## Other things -/

/-- A table that a module keeps, behind the keywords. -/
def virtualTable : Parser Unit := do
  ifNotExists
  discard path
  keyword "USING"
  discard ident
  discard namesInParens?

/-- A schema, behind its keyword. -/
def schemaDefinition : Parser Unit := do
  ifNotExists
  unless ← behind? ["AUTHORIZATION"] ident do
    discard path
    behind ["AUTHORIZATION"] ident

/-- A database, behind its keyword. -/
def databaseDefinition : Parser Unit := do
  ifNotExists
  discard path
  manyBehind
    [(["LOCATION"], discard literalText), (["MANAGEDLOCATION"], discard literalText)]

/-- Roles, behind their keyword. -/
def roleDefinition : Parser Unit := do
  ifNotExists
  discard (commaList path)
  optionally ["WITH"]

/-- An extension, behind its keyword. -/
def extensionDefinition : Parser Unit := do
  ifNotExists
  discard ident
  behind ["WITH"] do
    behind ["SCHEMA"] ident
    behind ["VERSION"] ident
    optionally ["CASCADE"]

/-- A secret, behind its keyword. What names it or its place may be any token. -/
def secretDefinition : Parser Unit := do
  ifNotExists
  unless ← atSymbol .leftParen do
    let placed ← if ← keyword? "IN" then looseName else do
      anyToken
      pure false
    unless placed do behind ["IN"] anyToken
  symbol .leftParen
  keyword "TYPE"
  discard ident
  if ← symbol? .comma then
    discard <| commaList do
      discard ident
      discard ident
  symbol .rightParen

/-! ## Creating and dropping -/

/-- What may be created in the place of a thing of the same name. -/
def replaceableDefinitions (inner : Inner) : List (List String × Parser Unit) :=
  [(["TABLE"], tableDefinition inner),
   (["MATERIALIZED"], do keyword "VIEW"; viewDefinition inner),
   (["VIEW"], viewDefinition inner),
   (["POLICY"], policyDefinition inner),
   (["EXTERNAL"], do keyword "TABLE"; externalTable inner),
   (["FUNCTION"], functionDefinition inner),
   (["TRIGGER"], triggerDefinition inner),
   (["CONSTRAINT", "TRIGGER"], triggerDefinition inner),
   (["MACRO"], macroDefinition inner),
   (["SECRET"], secretDefinition)]

/-- What may be created only where nothing has the name. -/
def newDefinitions (inner : Inner) (body : Parser Unit) : List (List String × Parser Unit) :=
  [(["EXTENSION"], extensionDefinition),
   (["INDEX"], indexDefinition inner),
   (["UNIQUE", "INDEX"], indexDefinition inner),
   (["VIRTUAL"], do keyword "TABLE"; virtualTable),
   (["SCHEMA"], schemaDefinition),
   (["DATABASE"], databaseDefinition),
   (["ROLE"], roleDefinition),
   (["SEQUENCE"], sequenceDefinition inner),
   (["TYPE"], typeDefinition inner),
   (["PROCEDURE"], procedureDefinition inner body)]

/-- A thing that is created, behind the keyword, given the parser for the statements of a
procedure. -/
def create (inner : Inner) (body : Parser Unit) : Parser Unit := do
  let replaces ← keywords? ["OR", "REPLACE"]
  optionally ["OR", "ALTER"]
  optionally ["LOCAL"]
  optionally ["GLOBAL"]
  optionally ["TRANSIENT"]
  optionallyOneOf ["TEMP", "TEMPORARY"]
  oneBehind
    (replaceableDefinitions inner ++ if replaces then [] else newDefinitions inner body)

/-- Things of one kind that are dropped, behind the kind. -/
def droppedThings (isRole : Bool) : Parser Unit := do
  ifExists
  discard (commaList path)
  let behaves ← strictDropBehavior
  let purges ← keyword? "PURGE"
  if isRole && (behaves || purges) then unexpected

/-- Functions or procedures that are dropped, behind their keyword. -/
def droppedFunctions (inner : Inner) : Parser Unit := do
  ifExists
  discard (commaList (functionName inner))
  dropBehavior

/-- A thing that stands on a table and is dropped, behind its keyword. -/
def droppedOnTable (name : Parser Unit) : Parser Unit := do
  ifExists
  name
  keyword "ON"
  discard path
  dropBehavior

/-- A secret that is dropped, behind its keyword. -/
def droppedSecret : Parser Unit := do
  ifExists
  discard ident
  behind ["FROM"] anyToken

/-- What is dropped, behind the keyword. -/
def drop (inner : Inner) : Parser Unit := do
  optionally ["TEMPORARY"]
  let things := ["TABLE", "VIEW", "INDEX", "SCHEMA", "DATABASE", "SEQUENCE", "STAGE", "TYPE"]
  oneBehind <|
    things.map (fun k => ([k], droppedThings false))
      ++ [(["ROLE"], droppedThings true), (["FUNCTION"], droppedFunctions inner),
          (["PROCEDURE"], droppedFunctions inner),
          (["POLICY"], droppedOnTable (discard ident)),
          (["TRIGGER"], droppedOnTable (discard path)), (["SECRET"], droppedSecret)]

end MetricQuery.Sql.Grammar
