import MetricQuery.Sql.Grammar.Administration
import MetricQuery.Sql.Grammar.Alteration
import MetricQuery.Sql.Grammar.RowChange
import MetricQuery.Sql.Grammar.Session

/-!
# Statements — queries, and the statements that are none

A text holds statements parted by semicolons. Of a statement that is no query only that much is
kept. Nesting is limited: a statement, a query and an expression each use up one of the `maxDepth`
levels, and what would need a further level is refused.
-/

namespace MetricQuery.Sql.Grammar

/-- The number of levels that a text may nest. -/
def maxDepth : Nat := 50

/-- The parsers for expressions and queries with a number of levels left. -/
def nested : (depth : Nat) → (linksRows : Bool) → Inner
  | 0, linksRows =>
    { linksRows, exprLinking := fun _ _ => throw .tooDeep, queryLinking := fun _ => throw .tooDeep }
  | depth + 1, linksRows =>
    { linksRows,
      exprLinking := fun links => exprOver (nested depth links),
      queryLinking := fun links => return (← queryOver (nested depth links)).toTree }

/-- A statement. -/
inductive Statement where
  | query (q : Query)
  /-- A statement that asks how another one is carried out, or what a table is like. -/
  | explanation
  /-- Any other statement. -/
  | other

/-! ## Statements that explain -/

/-- A setting of an explanation: a name, and a value if it has one. -/
def explanationOption (inner : Inner) : Parser Unit := do
  discard ident
  unless (← atSymbol .comma) || (← atSymbol .rightParen) do discard inner.whole

/-- How something is explained, which only one of the keywords takes as a list. -/
def explanationStyle (inner : Inner) (takesList : Bool) : Parser Unit := do
  if takesList && (← atSymbol .leftParen) then
    discard (inParens (commaList (explanationOption inner)))
  else unless ← keywords? ["QUERY", "PLAN"] do
    optionally ["ANALYZE"]
    optionally ["VERBOSE"]
    behind ["FORMAT"] (oneOfKeywords ["TEXT", "GRAPHVIZ", "JSON"])

/-- What is explained, behind the keyword: a statement that explains nothing itself, or a table. -/
def explain (inner : Inner) (takesList : Bool) (statement : Parser Statement) : Parser Unit := do
  explanationStyle inner takesList
  match ← attempt statement with
  | some .explanation => unexpected
  | some _ => return ()
  | none =>
    optionallyOneOf ["EXTENDED", "FORMATTED"]
    discard path

/-! ## Other statements -/

/-- The statements that are no queries and explain nothing, by the words that open them. -/
def otherStatements (inner : Inner) (statement body : Parser Unit) :
    List (List String × Parser Unit) :=
  [(["KILL"], killProcess), (["FLUSH"], flush), (["ANALYZE"], analyze inner),
   (["TRUNCATE"], truncateTables inner), (["ATTACH"], attachDatabase inner),
   (["DETACH"], detachDatabase), (["MSCK"], repair), (["CREATE"], create inner body),
   (["CACHE"], cacheTable inner), (["DROP"], drop inner),
   (["DISCARD"],
     discard (oneOfKeywords ["ALL", "PLANS", "SEQUENCES", "TEMP", "TEMPORARY"])),
   (["DECLARE"], declareCursor inner), (["FETCH"], fetchRows), (["DELETE"], deleteRows inner),
   (["INSERT"], discard (insert inner)), (["REPLACE"], discard (insert inner)),
   (["UNCACHE"], uncacheTable), (["UPDATE"], discard (update inner)), (["ALTER"], alter inner),
   (["CALL"], callProcedure inner), (["COPY"], copyRows inner),
   (["CLOSE"], do
     unless ← keyword? "ALL" do discard ident),
   (["SET"], changeSettings inner), (["SHOW"], showState inner), (["USE"], discard path),
   (["GRANT"], grant), (["REVOKE"], revoke),
   (["START"], do
     keyword "TRANSACTION"
     modes),
   (["BEGIN"], beginTransaction), (["END"], transactionEnd), (["COMMIT"], transactionEnd),
   (["ROLLBACK"], rollBack), (["SAVEPOINT"], discard ident),
   (["RELEASE"], do
     optionally ["SAVEPOINT"]
     discard ident),
   (["ASSERT"], assertion inner),
   (["DEALLOCATE"], do
     optionally ["PREPARE"]
     discard ident),
   (["EXECUTE"], execute inner), (["EXEC"], execute inner),
   (["PREPARE"], prepare inner statement), (["MERGE"], mergeRows inner), (["PRAGMA"], pragma),
   (["UNLOAD"], unloadRows inner), (["INSTALL"], discard ident), (["LOAD"], discard ident),
   (["OPTIMIZE"], optimize inner), (["COMMENT"], commentOn)]

/-! ## Statements one behind the other -/

/-- Takes all semicolons in front; tells whether there was one. -/
def semicolons : Parser Bool := do
  let tokens ← get
  let rest := tokens.dropWhile (· == .symbol .semicolon)
  set rest
  return rest.length < tokens.length

/-- At most `rounds` statements. A semicolon has to part a statement from the one before; the word
`END` behind a statement ends them. -/
def statementsOver (statement : Parser Statement) :
    (rounds : Nat) → (needsSemicolon : Bool) → Parser (List Statement)
  | 0, _ => unexpected
  | rounds + 1, needsSemicolon => do
    let parted ← semicolons
    let needsSemicolon := needsSemicolon && !parted
    match ← peek? with
    | none => return []
    | some t =>
      if needsSemicolon then
        if keywordOf t == "END" then return [] else unexpected
      else
        let s ← statement
        return s :: (← statementsOver statement rounds true)

/-- The words that open a query. -/
def queryWords : List String :=
  ["SELECT", "WITH", "VALUES"]

/-- A query as a statement with a number of levels left. -/
def queryStatement : (depth : Nat) → Parser Statement
  | 0 => throw .tooDeep
  | depth + 1 => return .query (← queryOver (nested depth false))

/-- A statement with a number of levels left. -/
def statementWithin : (depth : Nat) → Parser Statement
  | 0 => throw .tooDeep
  | depth + 1 => do
    let inner := nested depth false
    let statement := statementWithin depth
    match ← peek? with
    | some (.symbol .leftParen) => queryStatement depth
    | some (.word w) =>
      if queryWords.contains w.keyword then queryStatement depth
      else if (← oneOfKeywords? ["EXPLAIN", "DESCRIBE", "DESC"]).isSome then
        explain inner (w.keyword == "EXPLAIN") statement
        return .explanation
      else
        oneBehind <| otherStatements inner (discard statement) do
          discard (statementsOver statement ((← remaining) + 1) false)
        return .other
    | _ => unexpected

/-- The statements of a text. -/
def statements : Parser (List Statement) := do
  statementsOver (statementWithin maxDepth) ((← remaining) + 1) false

end MetricQuery.Sql.Grammar
