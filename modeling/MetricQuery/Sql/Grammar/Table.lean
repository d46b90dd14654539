import MetricQuery.Sql.Grammar.Expr
import MetricQuery.Sql.Grammar.RowPattern
import MetricQuery.Sql.Query

/-!
# Tables — what a query reads its rows from

A table is a name, a query, a function, a list of rows or a join in parentheses, and it may be
turned around (`PIVOT`, `UNPIVOT`) or searched for row patterns. Tables are joined one to the next.
-/

namespace MetricQuery.Sql.Grammar

/-! ## Aliases -/

/-- A column of a table's alias, with its type if one is given. -/
def aliasColumn (inner : Inner) : Parser SyntaxTree := do
  let name ← ident
  return .clause (.aliasColumn name) (← attempt (typeTree inner)).toList

/-- The columns of an alias in parentheses, or nothing. -/
def aliasColumns (inner : Inner) : Parser (List SyntaxTree) := do
  if ← atSymbol .leftParen then inParens (commaList (aliasColumn inner)) else return []

/-- The alias of a table, or nothing. -/
def tableAlias? (inner : Inner) : Parser SyntaxTree := do
  match ← optionalAlias endsTable with
  | some name => return .clause (.tableAlias name) (← aliasColumns inner)
  | none => return .absent

/-! ## Rows and settings -/

/-- A row of values. -/
def valuesRow (inner : Inner) : Parser (Bool × SyntaxTree) := do
  let explicit ← keyword? "ROW"
  return (explicit, .clause .row (← inParens inner.list))

/-- Rows of values, behind the keyword. -/
def valuesBody (inner : Inner) : Parser SyntaxTree := do
  let rows ← commaList (valuesRow inner)
  return .clause (.values (rows.any (·.1))) (rows.map (·.2))

/-- A setting. -/
def setting : Parser Setting := do
  let name ← ident
  symbol .equal
  return ⟨name, ← literal⟩

/-- The settings behind their keyword, or nothing. -/
def settings? : Parser (List Setting) := do
  if ← keyword? "SETTINGS" then commaList setting else return []

/-! ## Tables that are turned around or searched -/

/-- A call behind the bare name of the function, with its alias. -/
def aliasedCall (inner : Inner) : Parser SyntaxTree := do
  match ← next with
  | .word w =>
    let t ← call inner (operand inner) [.plain w.text] false
    if ← keyword? "AS" then return .clause (.aliased (← ident)) [t] else return t
  | _ => unexpected

/-- An expression, with its alias. -/
def aliasedExpr (inner : Inner) : Parser SyntaxTree := do
  let e ← inner.whole
  if ← keyword? "AS" then return .clause (.aliased (← ident)) [e] else return e

/-- The values that become columns. -/
def pivotSource (inner : Inner) : Parser SyntaxTree := do
  if ← keyword? "ANY" then
    let order ← if ← keywords? ["ORDER", "BY"] then orderItems inner else pure []
    return .clause .pivotAny order
  else if ← atQuery then inner.query
  else return .clause .pivotValues (← commaList (aliasedExpr inner))

/-- A table whose rows become columns, behind the keyword. -/
def pivot (inner : Inner) (table : SyntaxTree) : Parser SyntaxTree := do
  symbol .leftParen
  let functions ← commaList (aliasedCall inner)
  keyword "FOR"
  let column ← path
  keyword "IN"
  let source ← inParens (pivotSource inner)
  let default ←
    if ← keywords? ["DEFAULT", "ON", "NULL"] then inParens inner.whole else pure .absent
  symbol .rightParen
  let label ← tableAlias? inner
  return .clause (.pivot column)
    [table, .clause .pivotFunctions functions, source, default, label]

/-- A table whose columns become rows, behind the keyword. -/
def unpivot (inner : Inner) (table : SyntaxTree) : Parser SyntaxTree := do
  symbol .leftParen
  let value ← ident
  keyword "FOR"
  let name ← ident
  keyword "IN"
  let columns ← namesInParens
  symbol .rightParen
  return .clause (.unpivot value name columns) [table, ← tableAlias? inner]

/-- The table, turned around as often as is written, at most `rounds` times. -/
def pivoted (inner : Inner) : (rounds : Nat) → SyntaxTree → Parser SyntaxTree
  | 0, table => return table
  | rounds + 1, table => do
    if ← keyword? "PIVOT" then pivoted inner rounds (← pivot inner table)
    else if ← keyword? "UNPIVOT" then pivoted inner rounds (← unpivot inner table)
    else return table

/-- What becomes of matches without rows, or nothing. -/
def emptyMatches? : Parser (Option EmptyMatches) := do
  if ← keywords? ["SHOW", "EMPTY", "MATCHES"] then return some .showEmpty
  else if ← keywords? ["OMIT", "EMPTY", "MATCHES"] then return some .omitEmpty
  else if ← keywords? ["WITH", "UNMATCHED", "ROWS"] then return some .withUnmatched
  else return none

/-- The rows that a match answers with, or nothing. -/
def rowsPerMatch? : Parser (Option RowsPerMatch) := do
  if ← keywords? ["ONE", "ROW", "PER", "MATCH"] then return some .one
  else if ← keywords? ["ALL", "ROWS", "PER", "MATCH"] then return some (.all (← emptyMatches?))
  else return none

/-- Where the search goes on behind a match, or nothing. -/
def skipTarget? : Parser (Option SkipTarget) := do
  if ← keywords? ["AFTER", "MATCH", "SKIP"] then
    if ← keywords? ["PAST", "LAST", "ROW"] then return some .pastLastRow
    else if ← keywords? ["TO", "NEXT", "ROW"] then return some .nextRow
    else if ← keywords? ["TO", "FIRST"] then return some (.first (← ident))
    else
      keywords ["TO", "LAST"]
      return some (.last (← ident))
  else return none

/-- A value of a match, with its name. -/
def measure (inner : Inner) : Parser SyntaxTree := do
  let e ← inner.whole
  let _ ← keyword? "AS"
  return .clause (.aliased (← ident)) [e]

/-- The condition on the rows of a symbol of a pattern. -/
def symbolDefinition (inner : Inner) : Parser SyntaxTree := do
  let name ← ident
  keyword "AS"
  return .clause (.definition name) [← inner.whole]

/-- A table that is searched for a row pattern, behind the keyword. -/
def matchRecognize (inner : Inner) (table : SyntaxTree) : Parser SyntaxTree := do
  symbol .leftParen
  let partition ← partitionBy? inner
  let order ← orderBy? inner
  let measures ←
    if ← keyword? "MEASURES" then pure (.clause .measures (← commaList (measure inner)))
    else pure .absent
  let rows ← rowsPerMatch?
  let skip ← skipTarget?
  keyword "PATTERN"
  let pattern ← rowPattern
  keyword "DEFINE"
  let definitions ← commaList (symbolDefinition inner)
  symbol .rightParen
  let label ← tableAlias? inner
  return .clause (.matchRecognize rows skip pattern)
    [table, partition, order, measures, .clause .definitions definitions, label]

/-! ## Tables that are read out of values -/

/-- What stands in a place where nothing can be read, or nothing. -/
def jsonFallback? : Parser (Option JsonFallback) := do
  let fallback? ←
    if ← keyword? "NULL" then pure (some JsonFallback.null)
    else if ← keyword? "ERROR" then pure (some .error)
    else if ← keyword? "DEFAULT" then pure (some (.value (← literal)))
    else pure none
  if fallback?.isSome then keyword "ON"
  return fallback?

/-- At most `rounds` fallbacks: the last one for what is missing, and the last one for what cannot
be read. -/
def jsonFallbacks (onEmpty onError : Option JsonFallback) : (rounds : Nat) →
    Parser (Option JsonFallback × Option JsonFallback)
  | 0 => return (onEmpty, onError)
  | rounds + 1 => do
    match ← jsonFallback? with
    | none => return (onEmpty, onError)
    | some fallback =>
      if ← keyword? "EMPTY" then jsonFallbacks (some fallback) onError rounds
      else
        keyword "ERROR"
        jsonFallbacks onEmpty (some fallback) rounds

/-- A column of a table that is read out of a JSON value; at most `depth` columns are nested. -/
def jsonColumn (inner : Inner) : (depth : Nat) → Parser SyntaxTree
  | 0 => unexpected
  | depth + 1 => do
    if ← keyword? "NESTED" then
      let _ ← keyword? "PATH"
      let path ← literal
      keyword "COLUMNS"
      return .clause (.jsonNested path) (← inParens (commaList (jsonColumn inner depth)))
    else
      let name ← ident
      if ← keyword? "FOR" then
        keyword "ORDINALITY"
        return .clause (.jsonOrdinal name) []
      else
        let type ← typeTree inner
        let test ← keyword? "EXISTS"
        keyword "PATH"
        let path ← literal
        let (onEmpty, onError) ← jsonFallbacks none none (← remaining)
        return .clause (.jsonColumn name test path onEmpty onError) [type]

/-- A table that is read out of a JSON value, behind the opening parenthesis. -/
def jsonTable (inner : Inner) : Parser SyntaxTree := do
  let value ← inner.whole
  symbol .comma
  let path ← literal
  keyword "COLUMNS"
  let columns ← inParens do commaList (jsonColumn inner (← remaining))
  symbol .rightParen
  return .clause (.jsonTable path) (value :: columns ++ [← tableAlias? inner])

/-- A column of a table that is read out of a JSON value by its name or by a path. -/
def openJsonColumn (inner : Inner) : Parser SyntaxTree := do
  let name ← ident
  let type ← typeTree inner
  let path ← match ← get with
    | .text .single s :: rest =>
      set rest
      pure (some s)
    | _ => pure none
  let asJson ← keyword? "AS"
  if asJson then keyword "JSON"
  return .clause (.openJsonColumn name path asJson) [type]

/-- A table of the fields of a JSON value, behind the opening parenthesis. -/
def openJson (inner : Inner) : Parser SyntaxTree := do
  let value ← inner.whole
  let path ← if ← symbol? .comma then pure (some (← literal)) else pure none
  symbol .rightParen
  let columns ←
    if ← keyword? "WITH" then inParens (commaList (openJsonColumn inner)) else pure []
  return .clause (.openJson path) (value :: columns ++ [← tableAlias? inner])

/-- The word `WITH` behind a list of values tells that a number goes with each value, if `OFFSET`
follows; otherwise it tells nothing. -/
def unnestOffset? : Parser (Option (Option Ident)) := do
  if ← keyword? "WITH" then
    if ← keyword? "OFFSET" then return some (← optionalAlias endsItem) else return none
  else return none

/-- A table of the items of values, behind the keyword. -/
def unnest (inner : Inner) : Parser SyntaxTree := do
  let values ← inParens inner.list
  let ordinality ← keywords? ["WITH", "ORDINALITY"]
  let label ← tableAlias? inner
  return .clause (.unnest ordinality (← unnestOffset?)) (label :: values)

/-! ## Tables by name -/

/-- At most `rounds` arguments of a table function. Settings end the list. -/
def tableArguments (inner : Inner) : (rounds : Nat) → Parser (List SyntaxTree)
  | 0 => unexpected
  | rounds + 1 => do
    if ← atKeyword "SETTINGS" then return [.clause (.settingsArgument (← settings?)) []]
    let t ← argument inner
    if ← symbol? .comma then return t :: (← tableArguments inner rounds) else return [t]

/-- The arguments of a table function, or nothing. -/
def tableArguments? (inner : Inner) : Parser SyntaxTree := do
  if ← symbol? .leftParen then
    if ← symbol? .rightParen then return .clause (.arguments none) []
    let items ← tableArguments inner (← remaining)
    symbol .rightParen
    return .clause (.arguments none) items
  else return .absent

/-- Hints on how a table is read, or nothing. -/
def hints? (inner : Inner) : Parser SyntaxTree := do
  match ← get with
  | t :: .symbol .leftParen :: rest =>
    if keywordOf t == "WITH" then
      set rest
      let hints ← inner.list
      symbol .rightParen
      return .clause .hints hints
    else return .absent
  | _ => return .absent

/-- A table by its name, or a table function. -/
def namedTable (inner : Inner) : Parser SyntaxTree := do
  let name ← path
  let partitions ← if ← keyword? "PARTITION" then namesInParens else pure []
  let args ← tableArguments? inner
  let ordinality ← keywords? ["WITH", "ORDINALITY"]
  let label ← tableAlias? inner
  let hints ← hints? inner
  let table ← pivoted inner (← remaining)
    (.clause (.table name partitions ordinality) [label, args, hints])
  if ← keyword? "MATCH_RECOGNIZE" then matchRecognize inner table else return table

/-! ## Queries and joins as tables -/

/-- A query as a table, behind the opening parenthesis. -/
def derivedTable (inner : Inner) (lateral : Bool) : Parser SyntaxTree := do
  let query ← inner.query
  symbol .rightParen
  return .clause (.derivedTable lateral) [query, ← tableAlias? inner]

/-- A query or a function that may refer to the tables before it, behind the keyword. -/
def lateralTable (inner : Inner) : Parser SyntaxTree := do
  if ← symbol? .leftParen then derivedTable inner true
  else
    let name ← path
    symbol .leftParen
    let args ← if ← atSymbol .rightParen then pure [] else commaList (argument inner)
    symbol .rightParen
    return .clause (.lateralFunction name)
      [.clause (.arguments none) args, ← tableAlias? inner]

/-- The position of the alias among the parts of a table: the first for a table by its name and for
one of the items of values, and the last for all others. -/
def aliasPosition (table : SyntaxTree) : Nat :=
  match table.form with
  | .clause (.table _ _ _) | .clause (.unnest _ _) => 0
  | _ => table.parts.length - 1

/-- The table under an alias; `none` if it has one already. -/
def withAlias? (table label : SyntaxTree) : Option SyntaxTree :=
  let i := aliasPosition table
  match table.parts[i]? with
  | some old =>
    if old.isAbsent then some (.node table.form (table.parts.set i label)) else none
  | none => none

/-- Whether a node is a join in parentheses. -/
def isNestedJoin (t : SyntaxTree) : Bool :=
  t.form == .clause .nestedJoin

/-- A join in parentheses, or a table in parentheses that have no meaning, behind the opening
one. -/
def nestedTable (inner : Inner) (joined : Parser SyntaxTree) : Parser SyntaxTree := do
  let t ← joined
  symbol .rightParen
  let label ← tableAlias? inner
  match t.parts with
  | [table] =>
    if isNestedJoin table then return .clause .nestedJoin [t, label]
    else if label.isAbsent then return table
    else match withAlias? table label with
      | some table => return table
      | none => unexpected
  | _ => return .clause .nestedJoin [t, label]

/-- A table in parentheses, behind the opening one. -/
def parenTable (inner : Inner) (joined : Parser SyntaxTree) : Parser SyntaxTree := do
  match ← attempt (derivedTable inner false) with
  | some t => pivoted inner (← remaining) t
  | none => nestedTable inner joined

/-- Rows of values as a table, behind the keyword. -/
def valuesTable (inner : Inner) : Parser SyntaxTree := do
  let rows ← valuesBody inner
  return .clause (.derivedTable false) [(Query.ofBody rows).toTree, ← tableAlias? inner]

/-- The table that a keyword in front of a parenthesis opens, behind the keyword; nothing if the
keyword opens none. -/
def openedTable? (inner : Inner) (k : String) : Option (Parser SyntaxTree) :=
  match k with
  | "VALUES" => some (valuesTable inner)
  | "JSON_TABLE" => some do
    symbol .leftParen
    jsonTable inner
  | "OPENJSON" => some do
    symbol .leftParen
    openJson inner
  | _ => none

/-- One table, given the parser for a joined table in parentheses. -/
def tableOver (inner : Inner) (joined : Parser SyntaxTree) : Parser SyntaxTree := do
  if ← keyword? "LATERAL" then lateralTable inner
  else if ← keyword? "TABLE" then
    let e ← inParens inner.whole
    return .clause .tableOf [e, ← tableAlias? inner]
  else if ← symbol? .leftParen then parenTable inner joined
  else if ← keyword? "UNNEST" then unnest inner
  else
    match ← get with
    | t :: .symbol .leftParen :: rest =>
      match openedTable? inner (keywordOf t) with
      | some table =>
        set (.symbol .leftParen :: rest)
        table
      | none => namedTable inner
    | _ => namedTable inner

/-! ## Joins -/

/-- What a join requires of the rows: a condition, equal columns, or nothing. -/
def joinConstraint (inner : Inner) : Parser SyntaxTree := do
  if ← keyword? "ON" then return .clause .on [← inner.whole]
  else if ← keyword? "USING" then return .clause (.using (← namesInParens)) []
  else return .absent

/-- The kind of join that the keyword `LEFT` or `RIGHT` opens, behind the keyword. -/
def sidedJoin (outer withSemi withAnti : JoinKind) : Parser JoinKind := do
  match ← oneOfKeywords ["OUTER", "SEMI", "ANTI", "JOIN"] with
  | "OUTER" => keyword "JOIN"; return outer
  | "SEMI" => keyword "JOIN"; return withSemi
  | "ANTI" => keyword "JOIN"; return withAnti
  | _ => return outer

/-- The words of a join that may be natural, or nothing. -/
def joinKind? : Parser (Option JoinKind) := do
  match ← oneOfKeywords? ["INNER", "JOIN", "LEFT", "RIGHT", "FULL", "ANTI", "SEMI"] with
  | some "INNER" => keyword "JOIN"; return some .inner
  | some "JOIN" => return some .inner
  | some "LEFT" => return some (← sidedJoin .left .leftSemi .leftAnti)
  | some "RIGHT" => return some (← sidedJoin .right .rightSemi .rightAnti)
  | some "FULL" =>
    let _ ← keyword? "OUTER"
    keyword "JOIN"
    return some .full
  | some "ANTI" => keyword "JOIN"; return some .anti
  | some _ => keyword "JOIN"; return some .semi
  | none => return none

/-- The words of a join that takes no constraint, or nothing. -/
def freeJoinKind? : Parser (Option JoinKind) := do
  if ← keyword? "CROSS" then
    if ← keyword? "JOIN" then return some .cross
    keyword "APPLY"
    return some .crossApply
  else if ← keyword? "OUTER" then
    keyword "APPLY"
    return some .outerApply
  else return none

/-- A join with the closest row, behind its keyword. -/
def asofJoin (inner : Inner) (table : Parser SyntaxTree) (isGlobal : Bool) : Parser SyntaxTree := do
  keyword "JOIN"
  let t ← table
  keyword "MATCH_CONDITION"
  let condition ← inParens inner.whole
  let constraint ← joinConstraint inner
  return .clause (.join .asof false isGlobal) [t, .clause .matchCondition [condition], constraint]

/-- A join with the table it adds, or nothing. -/
def join? (inner : Inner) (table : Parser SyntaxTree) : Parser (Option SyntaxTree) := do
  let isGlobal ← keyword? "GLOBAL"
  match ← freeJoinKind? with
  | some kind => return some (.clause (.join kind false isGlobal) [← table, .absent])
  | none =>
    if ← keyword? "ASOF" then return some (← asofJoin inner table isGlobal)
    let natural ← keyword? "NATURAL"
    match ← joinKind? with
    | some kind =>
      let t ← table
      let constraint ← if natural then pure .absent else joinConstraint inner
      return some (.clause (.join kind natural isGlobal) [t, constraint])
    | none => if natural then unexpected else return none

/-- At most `rounds` joins. -/
def joins (inner : Inner) (table : Parser SyntaxTree) : (rounds : Nat) → Parser (List SyntaxTree)
  | 0 => return []
  | rounds + 1 => do
    match ← join? inner table with
    | some t => return t :: (← joins inner table rounds)
    | none => return []

/-- A table and what is joined to it. -/
def joinedOver (inner : Inner) (table : Parser SyntaxTree) : Parser SyntaxTree := do
  let first ← table
  return .clause .joined (first :: (← joins inner table (← remaining)))

/-- One table; at most `rounds` pairs of parentheses stand around tables. -/
def tableWithin (inner : Inner) : (rounds : Nat) → Parser SyntaxTree
  | 0 => unexpected
  | rounds + 1 => tableOver inner (joinedOver inner (tableWithin inner rounds))

/-- One table. -/
def table (inner : Inner) : Parser SyntaxTree := do
  tableWithin inner ((← remaining) + 1)

/-- A table of a `FROM` list and what is joined to it. -/
def joinedTable (inner : Inner) : Parser SyntaxTree := do
  joinedOver inner (tableWithin inner ((← remaining) + 1))

end MetricQuery.Sql.Grammar
