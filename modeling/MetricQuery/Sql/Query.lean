import MetricQuery.Sql.Printer

/-!
# Queries — the clauses of a query and of a `SELECT`

`Query` and `Select` name the parts that a node of that form holds at fixed positions. A whole
statement is a `Query`; inside a tree it stands as `Query.toTree`.
-/

namespace MetricQuery.Sql

/-- A query: its clauses, each `SyntaxTree.absent` where it is not written. -/
structure Query where
  commonTables : SyntaxTree
  body : SyntaxTree
  orderBy : SyntaxTree
  limit : SyntaxTree
  limitBy : SyntaxTree
  offset : SyntaxTree
  fetch : SyntaxTree
  options : QueryOptions

namespace Query

/-- The clauses in visiting order. -/
def clauses (q : Query) : List SyntaxTree :=
  [q.commonTables, q.body, q.orderBy, q.limit, q.limitBy, q.offset, q.fetch]

/-- The query as a node of a tree. -/
def toTree (q : Query) : SyntaxTree :=
  .clause (.query q.options) q.clauses

/-- A query that is no more than its body. -/
def ofBody (body : SyntaxTree) : Query :=
  ⟨.absent, body, .absent, .absent, .absent, .absent, .absent, .plain⟩

/-- The canonical text of the query. -/
def render (q : Query) : String :=
  q.toTree.render

/-- Changes every node below the query. -/
def mapNodes (f : SyntaxTree → SyntaxTree) (q : Query) : Query :=
  { q with
    commonTables := q.commonTables.mapNodes f
    body := q.body.mapNodes f
    orderBy := q.orderBy.mapNodes f
    limit := q.limit.mapNodes f
    limitBy := q.limitBy.mapNodes f
    offset := q.offset.mapNodes f
    fetch := q.fetch.mapNodes f }

/-- Changes every node below the query while a state is passed along. -/
def mapNodesWith {σ : Type} (f : σ → SyntaxTree → SyntaxTree × σ) (s : σ) (q : Query) : Query × σ :=
  let (commonTables, s) := q.commonTables.mapNodesWith f s
  let (body, s) := q.body.mapNodesWith f s
  let (orderBy, s) := q.orderBy.mapNodesWith f s
  let (limit, s) := q.limit.mapNodesWith f s
  let (limitBy, s) := q.limitBy.mapNodesWith f s
  let (offset, s) := q.offset.mapNodesWith f s
  let (fetch, s) := q.fetch.mapNodesWith f s
  ({ q with commonTables, body, orderBy, limit, limitBy, offset, fetch }, s)

/-- The number in the `LIMIT` clause's place, if the clause is there. -/
def limitExpr? (q : Query) : Option SyntaxTree :=
  match q.limit with
  | .node (.clause .limit) [e] => some e
  | _ => none

end Query

/-- A `SELECT`: its clauses, each `SyntaxTree.absent` where it is not written. -/
structure Select where
  distinct : SyntaxTree
  top : SyntaxTree
  /-- The items of the `SELECT` list. -/
  items : List SyntaxTree
  sources : SyntaxTree
  lateralViews : SyntaxTree
  prewhere : SyntaxTree
  condition : SyntaxTree
  grouping : SyntaxTree
  clusterBy : SyntaxTree
  distributeBy : SyntaxTree
  sortBy : SyntaxTree
  having : SyntaxTree
  windows : SyntaxTree
  qualify : SyntaxTree
  connectBy : SyntaxTree
  /-- Whether `WINDOW` is written in front of `QUALIFY`. -/
  windowFirst : Bool
  /-- The table that the rows are put into. -/
  into : Option IntoTable

namespace Select

/-- The `SELECT` list. -/
def projection (s : Select) : SyntaxTree :=
  .clause .projection s.items

/-- The clauses in visiting order. -/
def clauses (s : Select) : List SyntaxTree :=
  [s.distinct, s.top, s.projection, s.sources, s.lateralViews, s.prewhere, s.condition, s.grouping,
    s.clusterBy, s.distributeBy, s.sortBy, s.having, s.windows, s.qualify, s.connectBy]

/-- The `SELECT` as a node of a tree. -/
def toTree (s : Select) : SyntaxTree :=
  .clause (.select s.windowFirst s.into) s.clauses

/-- The `SELECT` that a node is, if it is one. -/
def ofTree? : SyntaxTree → Option Select
  | .node (.clause (.select windowFirst into))
      [distinct, top, .node (.clause .projection) items, sources, lateralViews, prewhere, condition,
        grouping, clusterBy, distributeBy, sortBy, having, windows, qualify, connectBy] =>
    some { distinct, top, items, sources, lateralViews, prewhere, condition, grouping, clusterBy,
           distributeBy, sortBy, having, windows, qualify, connectBy, windowFirst, into }
  | _ => none

theorem ofTree?_toTree (s : Select) : ofTree? s.toTree = some s := rfl

/-- The `SELECT` with another list of items. -/
def withItems (s : Select) (items : List SyntaxTree) : Select :=
  { s with items }

end Select

/-- The `SELECT` that is the whole body of the query, if the body is one. -/
def Query.select? (q : Query) : Option Select :=
  Select.ofTree? q.body

end MetricQuery.Sql
