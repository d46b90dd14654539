import MetricQuery.Sql.Grammar.Change

/-!
# Queries — bodies, and the clauses around them

A query is a body between its common tables and its ordering and limits. A body is a `SELECT`, a
list of rows, a whole table, a query in parentheses, or such bodies joined by set operators, of
which `INTERSECT` binds more tightly than the others. An `INSERT` or an `UPDATE` may stand behind
common tables in the place of all that follows them.
-/

namespace MetricQuery.Sql.Grammar

/-! ## Bodies -/

/-- The text of a word. -/
def wordText : Option Token → Parser String
  | some (.word w) => return w.text
  | _ => unexpected

/-- A whole table, behind the keyword. Three tokens are taken, whatever the last two of them are;
with a point in the middle they are a schema and its table. -/
def wholeTable : Parser SyntaxTree := do
  let tokens ← get
  set (tokens.drop 3)
  if tokens[1]? == some (.symbol .period) then
    let schema ← wordText tokens[0]?
    return .clause (.wholeTable (some schema) (← wordText tokens[2]?)) []
  else return .clause (.wholeTable none (← wordText tokens[0]?)) []

/-- A body without a set operator. -/
def simpleBody (inner : Inner) : Parser SyntaxTree := do
  if ← keyword? "SELECT" then return (← select inner).toTree
  else if ← symbol? .leftParen then
    let query ← inner.query
    symbol .rightParen
    return .clause .parenthesized [query]
  else if ← keyword? "VALUES" then valuesBody inner
  else
    keyword "TABLE"
    wholeTable

/-- What a set operator does with duplicates. -/
def setQuantifier : Parser SetQuantifier := do
  if ← keywords? ["DISTINCT", "BY", "NAME"] then return .distinctByName
  else if ← keywords? ["BY", "NAME"] then return .byName
  else if ← keyword? "ALL" then
    return if ← keywords? ["BY", "NAME"] then .allByName else .all
  else return if ← keyword? "DISTINCT" then .distinct else .default

/-- At most `rounds` bodies behind `INTERSECT`, each with all that is on its left. -/
def intersections (inner : Inner) : (rounds : Nat) → SyntaxTree → Parser SyntaxTree
  | 0, left => return left
  | rounds + 1, left => do
    if ← keyword? "INTERSECT" then
      let quantifier ← setQuantifier
      let right ← simpleBody inner
      intersections inner rounds (.clause (.setOperation .intersect quantifier) [left, right])
    else return left

/-- At most `rounds` bodies behind set operators, each with all that is on its left. -/
def setOperations (inner : Inner) : (rounds : Nat) → SyntaxTree → Parser SyntaxTree
  | 0, left => return left
  | rounds + 1, left => do
    match ← oneOfKeywords? ["UNION", "EXCEPT", "INTERSECT"] with
    | none => return left
    | some k =>
      let quantifier ← setQuantifier
      let right ← simpleBody inner
      let (op, right) ← match k with
        | "INTERSECT" => pure (SetOperator.intersect, right)
        | "UNION" => pure (.union, ← intersections inner rounds right)
        | _ => pure (.except, ← intersections inner rounds right)
      setOperations inner rounds (.clause (.setOperation op quantifier) [left, right])

/-- A body. -/
def body (inner : Inner) : Parser SyntaxTree := do
  let first ← simpleBody inner
  setOperations inner (← remaining) first

/-! ## Around the body -/

/-- A common table. -/
def commonTable (inner : Inner) : Parser SyntaxTree := do
  let name ← ident
  let columns ← if ← atKeyword "AS" then pure [] else aliasColumns inner
  keyword "AS"
  let query ← inParens inner.query
  let source ← if ← keyword? "FROM" then pure (some (← ident)) else pure none
  return .clause (.commonTable source) [.clause (.tableAlias name) columns, query]

/-- The common tables, or nothing. -/
def commonTables? (inner : Inner) : Parser SyntaxTree := do
  if ← keyword? "WITH" then
    let recursive ← keyword? "RECURSIVE"
    return .clause (.commonTables recursive) (← commaList (commonTable inner))
  else return .absent

/-- A value that `INTERPOLATE` gives to a column. -/
def interpolation (inner : Inner) : Parser SyntaxTree := do
  let name ← ident
  let value ← clauseBehind ["AS"] inner.whole
  return .clause (.interpolation name) value

/-- The columns whose values are interpolated, or nothing. -/
def interpolation? (inner : Inner) : Parser (List SyntaxTree) := do
  if ← keyword? "INTERPOLATE" then
    if ← symbol? .leftParen then
      let items ← if ← atSymbol .rightParen then pure [] else commaList (interpolation inner)
      symbol .rightParen
      return [.clause (.interpolate true) items]
    else return [.clause (.interpolate false) []]
  else return []

/-- The ordering of a query, or nothing. -/
def queryOrder? (inner : Inner) : Parser SyntaxTree := do
  if ← keywords? ["ORDER", "BY"] then
    let items ← orderItems inner
    return .clause .orderBy (items ++ (← interpolation? inner))
  else return .absent

/-- A `LIMIT`, behind its keyword; `ALL` means nothing. -/
def limit (inner : Inner) : Parser SyntaxTree := do
  if ← keyword? "ALL" then return .absent else return .clause .limit [← inner.whole]

/-- An `OFFSET`, behind its keyword. -/
def offset (inner : Inner) : Parser SyntaxTree := do
  let e ← inner.whole
  let unit ← match ← oneOfKeywords? ["ROW", "ROWS"] with
    | some "ROW" => pure OffsetUnit.row
    | some _ => pure .rows
    | none => pure .none
  return .clause (.offset unit) [e]

/-- `LIMIT` and `OFFSET` in either order, and the form `LIMIT offset, limit`. -/
def limitAndOffset (inner : Inner) :
    (rounds : Nat) → (limit offset : SyntaxTree) → Parser (SyntaxTree × SyntaxTree)
  | 0, l, o => return (l, o)
  | rounds + 1, l, o => do
    let l ← if ← (pure l.isAbsent <&&> keyword? "LIMIT") then limit inner else pure l
    let o ← if ← (pure o.isAbsent <&&> keyword? "OFFSET") then offset inner else pure o
    if ← (pure (!l.isAbsent && o.isAbsent) <&&> symbol? .comma) then
      let e ← inner.whole
      limitAndOffset inner rounds (.clause .limit [e]) (.clause (.offset .none) l.parts)
    else limitAndOffset inner rounds l o

/-- A `FETCH`, or nothing. -/
def fetch? : Parser SyntaxTree := do
  if ← keyword? "FETCH" then
    let _ ← oneOfKeywords ["FIRST", "NEXT"]
    let (count, percent) ←
      match ← oneOfKeywords? ["ROW", "ROWS"] with
      | some _ => pure ([], false)
      | none =>
        let e := .expr (.literal (← literal)) []
        let percent ← keyword? "PERCENT"
        let _ ← oneOfKeywords ["ROW", "ROWS"]
        pure ([e], percent)
    if ← keyword? "ONLY" then return .clause (.fetch percent false) count
    keywords ["WITH", "TIES"]
    return .clause (.fetch percent true) count
  else return .absent

/-! ## Locks and documents -/

/-- A text in parentheses. -/
def textInParens : Parser String :=
  inParens literalText

/-- How rows become the elements of an XML document. -/
def xmlShape : Parser XmlShape := do
  let element? : Parser (Option String) := do
    if ← atSymbol .leftParen then return some (← textInParens) else return none
  match ← oneOfKeywords ["RAW", "AUTO", "EXPLICIT", "PATH"] with
  | "RAW" => return .raw (← element?)
  | "AUTO" => return .auto
  | "EXPLICIT" => return .explicit
  | _ => return .path (← element?)

/-- At most `rounds` remarks on an XML document, each behind a comma. A comma with no remark behind
it says nothing. -/
def xmlDocument (shape : XmlShape) (root : Option String) (base64 typed elements : Bool) :
    (rounds : Nat) → Parser DocumentFormat
  | 0 => return .xml shape root base64 typed elements
  | rounds + 1 => do
    if ← symbol? .comma then
      if ← keyword? "ELEMENTS" then xmlDocument shape root base64 typed true rounds
      else if ← keyword? "BINARY" then
        keyword "BASE64"
        xmlDocument shape root true typed elements rounds
      else if ← keyword? "ROOT" then
        xmlDocument shape (some (← textInParens)) base64 typed elements rounds
      else
        let typed := (← keyword? "TYPE") || typed
        xmlDocument shape root base64 typed elements rounds
    else return .xml shape root base64 typed elements

/-- At most `rounds` remarks on a JSON document, each behind a comma. A comma with no remark behind
it says nothing. -/
def jsonDocument (path : Bool) (root : Option String) (includeNulls withoutWrapper : Bool) :
    (rounds : Nat) → Parser DocumentFormat
  | 0 => return .json path root includeNulls withoutWrapper
  | rounds + 1 => do
    if ← symbol? .comma then
      if ← keyword? "ROOT" then
        jsonDocument path (some (← textInParens)) includeNulls withoutWrapper rounds
      else if ← keyword? "INCLUDE_NULL_VALUES" then
        jsonDocument path root true withoutWrapper rounds
      else
        let withoutWrapper := (← keyword? "WITHOUT_ARRAY_WRAPPER") || withoutWrapper
        jsonDocument path root includeNulls withoutWrapper rounds
    else return .json path root includeNulls withoutWrapper

/-- The document that a query answers with, behind `FOR`; nothing if no such word follows. -/
def document? : Parser (Option DocumentFormat) := do
  match ← oneOfKeywords? ["XML", "JSON", "BROWSE"] with
  | some "XML" =>
    let shape ← xmlShape
    return some (← xmlDocument shape none false false false (← remaining))
  | some "JSON" =>
    let k ← oneOfKeywords ["AUTO", "PATH"]
    return some (← jsonDocument (k == "PATH") none false false (← remaining))
  | some _ => return some .browse
  | none => return none

/-- A lock on rows, behind `FOR`. -/
def lock : Parser RowLock := do
  let kind ← oneOfKeywords ["UPDATE", "SHARE"]
  let table ← if ← keyword? "OF" then pure (some (← path)) else pure none
  let nowait ←
    if ← keyword? "NOWAIT" then pure (some true)
    else if ← keywords? ["SKIP", "LOCKED"] then pure (some false)
    else pure none
  return ⟨kind == "UPDATE", table, nowait⟩

/-- At most `rounds` locks on rows, and the document that ends them if one does. -/
def locks : (rounds : Nat) → Parser (List RowLock × Option DocumentFormat)
  | 0 => return ([], none)
  | rounds + 1 => do
    if ← keyword? "FOR" then
      match ← document? with
      | some document => return ([], some document)
      | none =>
        let l ← lock
        let (others, document) ← locks rounds
        return (l :: others, document)
    else return ([], none)

/-- The format of the answer, or nothing. -/
def format? : Parser (Option (Option Ident)) := do
  if ← keyword? "FORMAT" then
    if ← keyword? "NULL" then return some none else return some (some (← ident))
  else return none

/-! ## The query -/

/-- What follows the common tables of a query that changes nothing. -/
def readingQuery (inner : Inner) (commonTables : SyntaxTree) : Parser Query := do
  let body ← body inner
  let orderBy ← queryOrder? inner
  let (limit, offset) ← limitAndOffset inner 2 .absent .absent
  let limitBy ← if ← keyword? "BY" then pure (.clause .limitBy (← inner.list)) else pure .absent
  let settings ← settings?
  let fetch ← fetch?
  let (locks, document) ← locks (← remaining)
  let format ← format?
  return { commonTables, body, orderBy, limit, limitBy, offset, fetch,
           options := { settings, locks, document, format } }

/-- A query, given the parsers for what is nested in it. -/
def queryOver (inner : Inner) : Parser Query := do
  let commonTables ← commonTables? inner
  if ← keyword? "INSERT" then return { Query.ofBody (← insert inner) with commonTables }
  else if ← keyword? "UPDATE" then return { Query.ofBody (← update inner) with commonTables }
  else readingQuery inner commonTables

end MetricQuery.Sql.Grammar
