import MetricQuery.Model.Request
import MetricQuery.Semantics.DefaultMetric
import MetricQuery.Semantics.Resolution

/-!
# Source queries — reading a logical table out of the store

The dimensions and metrics of a logical table are read from the table of the model by one query.
It has a column for each dimension, then one for each metric, under their technical names, and
groups the rows by the dimensions if there is a metric to sum up.
-/

namespace MetricQuery

/-- A column of a source query: what is read, and its output name. -/
structure SourceColumn where
  expr : String
  output : String
  deriving DecidableEq, Repr

/-- The column as it is written; its name is left out if it is the expression itself. -/
def SourceColumn.render (c : SourceColumn) : String :=
  if c.expr = c.output then c.expr else c.expr ++ " AS " ++ c.output

/-- A query over the table of a model. -/
structure SourceQuery where
  table : String
  dimensions : List SourceColumn
  metrics : List SourceColumn
  deriving DecidableEq, Repr

namespace SourceQuery

/-- The columns, the dimensions first. -/
def columns (q : SourceQuery) : List SourceColumn :=
  q.dimensions ++ q.metrics

/-- What the rows are grouped by. -/
def grouping (q : SourceQuery) : List String :=
  if q.metrics.isEmpty then [] else q.dimensions.map SourceColumn.expr

/-- The text of the query. -/
def render (q : SourceQuery) : String :=
  let projection :=
    if q.columns.isEmpty then "*" else ", ".intercalate (q.columns.map SourceColumn.render)
  "SELECT " ++ projection ++ " FROM " ++ q.table
    ++ if q.grouping.isEmpty then "" else " GROUP BY " ++ ", ".intercalate q.grouping

/-- The column of a dimension. A reserved column is read as the model says, any other one as the
element that the name stands for; a name that stands for no element has no column. -/
def dimensionColumn? (scope : Scope) (name : String) : Option SourceColumn :=
  match internalColumn? name with
  | some column => some ⟨scope.schema.internalColumnExpr column, column⟩
  | none =>
    match (scope.resolve name).target with
    | .dimension e | .metric e => some ⟨e.physicalExpr, e.technicalName⟩
    | _ => none

/-- The column of a metric: the one made up for the query if it has this name, else the element
that the name stands for, summed up. -/
def metricColumn? (scope : Scope) (made : Option SynthesizedMetric) (name : String) :
    Option SourceColumn :=
  let declared :=
    match (scope.resolve name).target with
    | .dimension e | .metric e => some ⟨e.summedExpr, e.technicalName⟩
    | _ => none
  match made with
  | some m => if m.name = name then some ⟨m.expr, m.name⟩ else declared
  | none => declared

/-- The query that reads a logical table. -/
def ofTable (scope : Scope) (made : Option SynthesizedMetric) (t : LogicalTable) : SourceQuery where
  table := scope.schema.sourceTable
  dimensions := t.dimensions.filterMap (dimensionColumn? scope)
  metrics := t.metrics.filterMap (metricColumn? scope made)

end SourceQuery

end MetricQuery
