import MetricQuery.Sql.Grammar.Table

/-!
# Selections — the items and clauses of a `SELECT`

The clauses stand in a fixed order, and most of them may be missing.
-/

namespace MetricQuery.Sql.Grammar

/-! ## Items -/

/-- Whether an expression is the bare word `from`, which is never a column of a `SELECT` list. -/
def isBareFrom (t : SyntaxTree) : Bool :=
  match t with
  | .node (.expr (.column [] ⟨name, none⟩)) _ => Text.lower name == "from"
  | _ => false

/-- A thing by itself, or things in parentheses. -/
def listed {α : Type} (p : Parser α) : Parser (Listed α) := do
  if ← symbol? .leftParen then
    let items ← commaList p
    symbol .rightParen
    return .inParens items
  else return .alone (← p)

/-- The pattern of the names that a star stands for, or nothing. -/
def starPattern? : Parser (Option String) := do
  if ← keyword? "ILIKE" then
    match ← next with
    | .text .single s => return some s
    | _ => unexpected
  else return none

/-- The columns that a star leaves out. -/
def starExcept : Parser (List Ident) := do
  if ← keyword? "EXCEPT" then
    if ← atSymbol .leftParen then namesInParens else return [← ident]
  else return []

/-- An expression that takes the place of a column of a star. -/
def replacement (inner : Inner) : Parser SyntaxTree := do
  let e ← inner.whole
  let asWord ← keyword? "AS"
  return .clause (.replacement (← ident) asWord) [e]

/-- A column under another name. -/
def renamedColumn : Parser (Ident × Ident) := do
  let name ← ident
  let _ ← keyword? "AS"
  return (name, ← ident)

/-- A star with what is said about its columns, behind the star. -/
def starItem (inner : Inner) (qualifier : List Ident) : Parser SyntaxTree := do
  let pattern ← starPattern?
  let exclude ←
    if ← (pure pattern.isNone <&&> keyword? "EXCLUDE") then pure (some (← listed ident))
    else pure none
  let except ← starExcept
  let replaced ←
    if ← keyword? "REPLACE" then inParens (commaList (replacement inner)) else pure []
  let rename ← if ← keyword? "RENAME" then pure (some (← listed renamedColumn)) else pure none
  return .clause (.wildcard qualifier { pattern, exclude, except, rename }) replaced

/-- An item of a `SELECT` list. -/
def selectItem (inner : Inner) : Parser SyntaxTree := do
  let t ← starOrExpr inner
  match t with
  | .node (.clause (.wildcard qualifier _)) _ => starItem inner qualifier
  | _ =>
    if isBareFrom t then unexpected
    match ← optionalAlias endsItem with
    | some label => return .clause (.aliased label) [t]
    | none => return t

/-! ## Clauses -/

/-- `DISTINCT` or `DISTINCT ON`, or nothing; `ALL` means nothing. -/
def distinct? (inner : Inner) : Parser SyntaxTree := do
  let all ← keyword? "ALL"
  if ← keyword? "DISTINCT" then
    if all then unexpected
    if ← keyword? "ON" then
      inParens do return .clause .distinctOn (← inner.listBefore .rightParen)
    else return .clause .distinct []
  else return .absent

/-- `TOP` and how many rows it keeps, or nothing. -/
def top? (inner : Inner) : Parser SyntaxTree := do
  if ← keyword? "TOP" then
    if ← symbol? .leftParen then
      let e ← inner.whole
      symbol .rightParen
      let percent ← keyword? "PERCENT"
      return .clause (.topExpr percent (← keywords? ["WITH", "TIES"])) [e]
    else
      let n ← natural
      let percent ← keyword? "PERCENT"
      return .clause (.topCount n percent (← keywords? ["WITH", "TIES"])) []
  else return .absent

/-- A clause that is an expression behind a keyword, or nothing. -/
def exprClause (inner : Inner) (k : String) (form : ClauseForm) : Parser SyntaxTree := do
  if ← keyword? k then return .clause form [← inner.whole] else return .absent

/-- At most `rounds` further ways to group. -/
def groupingModifiers : (rounds : Nat) → Parser (List GroupingModifier)
  | 0 => return []
  | rounds + 1 => do
    if ← keyword? "WITH" then
      let modifier ← match ← oneOfKeywords ["ROLLUP", "CUBE", "TOTALS"] with
        | "ROLLUP" => pure GroupingModifier.rollup
        | "CUBE" => pure .cube
        | _ => pure .totals
      return modifier :: (← groupingModifiers rounds)
    else return []

/-- A list of expressions in parentheses, or one expression where `single` allows it. -/
def groupingSet (inner : Inner) (single : Bool) : Parser SyntaxTree := do
  if single && !(← atSymbol .leftParen) then
    return .clause (.groupingSet false) [← inner.whole]
  else
    let es ← inParens (inner.listBefore .rightParen)
    return .clause (.groupingSet (!single || es.length != 1)) es

/-- An expression to group by. -/
def groupingExpr (inner : Inner) : Parser SyntaxTree := do
  if ← keywords? ["GROUPING", "SETS"] then
    return .expr .groupingSets (← inParens (commaList (groupingSet inner false)))
  else if ← keyword? "CUBE" then
    return .expr .cube (← inParens (commaList (groupingSet inner true)))
  else if ← keyword? "ROLLUP" then
    return .expr .rollup (← inParens (commaList (groupingSet inner true)))
  else
    match ← get with
    | .symbol .leftParen :: .symbol .rightParen :: rest =>
      set rest
      return .expr .tuple []
    | _ => inner.whole

/-- `GROUP BY`, or nothing. -/
def grouping? (inner : Inner) : Parser SyntaxTree := do
  if ← keywords? ["GROUP", "BY"] then
    if ← keyword? "ALL" then
      return .clause (.groupByAll (← groupingModifiers (← remaining))) []
    else
      let es ← commaList (groupingExpr inner)
      return .clause (.groupBy (← groupingModifiers (← remaining))) es
  else return .absent

/-- A window with its name. -/
def windowDefinition (inner : Inner) : Parser SyntaxTree := do
  let name ← ident
  keyword "AS"
  let definition ←
    if ← symbol? .leftParen then window inner (operand inner)
    else pure (.clause (.namedWindow (← ident)) [])
  return .clause (.windowDefinition name) [definition]

/-- `WINDOW` and the windows it names, or nothing. -/
def windows? (inner : Inner) : Parser SyntaxTree := do
  if ← keyword? "WINDOW" then return .clause .windows (← commaList (windowDefinition inner))
  else return .absent

/-- The table that the rows are put into, or nothing. -/
def into? : Parser (Option IntoTable) := do
  if ← keyword? "INTO" then
    let temporary := (← oneOfKeywords? ["TEMP", "TEMPORARY"]).isSome
    let unlogged ← keyword? "UNLOGGED"
    let tableWord ← keyword? "TABLE"
    return some ⟨temporary, unlogged, tableWord, ← path⟩
  else return none

/-- A function whose rows are joined to each row, behind the keywords. The list of its columns may
have gaps. -/
def lateralView (inner : Inner) : Parser SyntaxTree := do
  let outer ← keyword? "OUTER"
  let e ← inner.whole
  let name ← path
  let columns ← commaList (optionalAlias ["WHERE", "GROUP", "CLUSTER", "HAVING", "LATERAL"])
  return .clause (.lateralView outer name (columns.filterMap id)) [e]

/-- At most `rounds` functions whose rows are joined to each row. -/
def lateralViews (inner : Inner) : (rounds : Nat) → Parser (List SyntaxTree)
  | 0 => return []
  | rounds + 1 => do
    if ← keywords? ["LATERAL", "VIEW"] then
      let t ← lateralView inner
      return t :: (← lateralViews inner rounds)
    else return []

/-- The functions whose rows are joined to each row, or nothing. -/
def lateralViews? (inner : Inner) : Parser SyntaxTree := do
  let views ← lateralViews inner (← remaining)
  return if views.isEmpty then .absent else .clause .lateralViews views

/-- A clause that is a list of expressions behind keywords, or nothing. -/
def listClause (inner : Inner) (ks : List String) (form : ClauseForm) : Parser SyntaxTree := do
  if ← keywords? ks then return .clause form (← inner.list) else return .absent

/-- The conditions that link a row to the one above it, or nothing. The condition on the roots may
stand before them or behind. -/
def connectBy? (inner : Inner) : Parser SyntaxTree := do
  let links : Parser (List SyntaxTree) := do
    keywords ["CONNECT", "BY"]
    inner.linking.list
  let roots : Parser SyntaxTree := do
    keywords ["START", "WITH"]
    inner.whole
  if ← atKeyword "START" then
    let root ← roots
    return .clause .connectBy (root :: (← links))
  else if ← atKeyword "CONNECT" then
    let linked ← links
    return .clause .connectBy ((← roots) :: linked)
  else return .absent

/-- A `SELECT`, behind its keyword. -/
def select (inner : Inner) : Parser Select := do
  let distinct ← distinct? inner
  let top ← top? inner
  let items ← commaList (selectItem inner)
  let into ← into?
  let sources ←
    if ← keyword? "FROM" then pure (.clause .from (← commaList (joinedTable inner)))
    else pure .absent
  let lateralViews ← lateralViews? inner
  let prewhere ← exprClause inner "PREWHERE" .prewhere
  let condition ← exprClause inner "WHERE" .where
  let grouping ← grouping? inner
  let clusterBy ← listClause inner ["CLUSTER", "BY"] .clusterBy
  let distributeBy ← listClause inner ["DISTRIBUTE", "BY"] .distributeBy
  let sortBy ← listClause inner ["SORT", "BY"] .sortBy
  let having ← exprClause inner "HAVING" .having
  let first ← windows? inner
  let qualify ← exprClause inner "QUALIFY" .qualify
  let windowFirst := !first.isAbsent
  let windows ← if windowFirst || qualify.isAbsent then pure first else windows? inner
  let connectBy ← connectBy? inner
  return { distinct, top, items, sources, lateralViews, prewhere, condition, grouping,
           clusterBy, distributeBy, sortBy, having, windows, qualify, connectBy, windowFirst, into }

end MetricQuery.Sql.Grammar
