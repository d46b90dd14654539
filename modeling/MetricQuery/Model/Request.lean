import MetricQuery.Text.LetterCase
import MetricQuery.Warning

/-!
# Requests — what is asked of a model, and the answer
-/

namespace MetricQuery

open MetricQuery.Text

/-- A query over the names of a model. -/
structure Request where
  modelId : Nat
  sql : String
  /-- Fields that were asked for beside the text. -/
  selectedFields : List String
  deriving DecidableEq, Repr

/-- The metrics and dimensions of a model that a request refers to, in lower case. -/
structure LogicalTable where
  /-- The name of the table in the request. -/
  name : String
  metrics : List String
  dimensions : List String
  deriving DecidableEq, Repr

namespace LogicalTable

/-- Whether a name is that of one of the metrics. -/
def isMetric (t : LogicalTable) (name : String) : Bool :=
  t.metrics.contains (lower name)

/-- Whether a name is that of one of the dimensions. -/
def isDimension (t : LogicalTable) (name : String) : Bool :=
  t.dimensions.contains (lower name)

end LogicalTable

/-- A request whose fields are resolved to logical tables. -/
structure LogicalRequest where
  modelId : Nat
  sql : String
  selectedFields : List String
  /-- The path of the model. -/
  rootPath : Option String
  tables : List LogicalTable
  deriving DecidableEq, Repr

/-- The request with a text of its own and its tables. -/
def Request.toLogical (r : Request) (sql : String) (rootPath : Option String)
    (tables : List LogicalTable) : LogicalRequest :=
  ⟨r.modelId, sql, r.selectedFields, rootPath, tables⟩

/-- A compiled request: the query over the store and what is known of it. -/
structure Compiled where
  sql : String
  logicalTable : Option LogicalTable
  hasAggregation : Bool
  warnings : List Warning
  deriving DecidableEq, Repr

/-- The answer to a request that asks for nothing. -/
def Compiled.empty : Compiled :=
  ⟨"", none, false, []⟩

/-- Whether there is nothing to run. -/
def Compiled.isEmpty (c : Compiled) : Bool :=
  c.sql.isEmpty

end MetricQuery
