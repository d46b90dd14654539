import MetricQuery.Catalog
import MetricQuery.Data.Value

/-!
# Records — schemas and catalogs as values of data files

Each type has the value it is written as (`toValue`) and a reading of values (`ofValue?`). What is
written names every field; on reading, a field may be left out if it has a default, and null stands
for nothing only where there may be nothing.
-/

namespace MetricQuery

namespace DataType

/-- All types. -/
def all : List DataType :=
  [string, int, decimal, float, bool, date, timestamp]

/-- The name of the type in files. -/
def fileName : DataType → String
  | string => "string"
  | int => "int"
  | decimal => "decimal"
  | float => "float"
  | bool => "bool"
  | date => "date"
  | timestamp => "timestamp"

def toValue (t : DataType) : Value :=
  .text t.fileName

/-- The type that a value names; `kept` tells that the value has been kept before. -/
def ofValue? (kept : Bool) (v : Value) : Option DataType :=
  (v.choice? kept).bind fun name => all.find? fun t => t.fileName = name

end DataType

namespace Aggregation

/-- All aggregations. -/
def all : List Aggregation :=
  [sum, count, countDistinct, avg, max, min]

/-- The name of the aggregation in files. -/
def fileName : Aggregation → String
  | sum => "sum"
  | count => "count"
  | countDistinct => "count_distinct"
  | avg => "avg"
  | max => "max"
  | min => "min"

def toValue (a : Aggregation) : Value :=
  .text a.fileName

/-- The aggregation that a value names; `kept` tells that the value has been kept before. -/
def ofValue? (kept : Bool) (v : Value) : Option Aggregation :=
  (v.choice? kept).bind fun name => all.find? fun a => a.fileName = name

end Aggregation

namespace Element

/-- The fields of an element. -/
def fieldNames : List String :=
  ["name", "technical_name", "data_type", "expr", "aggregation"]

def toValue (e : Element) : Value :=
  .object [
    ("name", .text e.name),
    ("technical_name", .text e.technicalName),
    ("data_type", e.dataType.toValue),
    ("expr", .ofText? e.expr),
    ("aggregation", (e.aggregation.map Aggregation.toValue).getD .null)]

/-- The element of a value; `kept` tells that the value has been kept before. -/
def ofValue? (kept : Bool) (v : Value) : Option Element := do
  let fields ← Fields.ofValue? fieldNames false v
  return {
    name := ← fields.required "name" Value.text?
    technicalName := ← fields.required "technical_name" Value.text?
    dataType := ← fields.withDefault "data_type" .string (DataType.ofValue? kept)
    expr := ← fields.withDefault "expr" none (Value.nullable? Value.text?)
    aggregation :=
      ← fields.withDefault "aggregation" none (Value.nullable? (Aggregation.ofValue? kept)) }

end Element

namespace DefaultMetricRule

/-- The fields of a rule. -/
def fieldNames : List String :=
  ["name", "aggregation", "column"]

def toValue (r : DefaultMetricRule) : Value :=
  .object [
    ("name", .ofText? r.name),
    ("aggregation", r.aggregation.toValue),
    ("column", .ofText? r.column)]

/-- The rule of a value; `kept` tells that the value has been kept before. -/
def ofValue? (kept : Bool) (v : Value) : Option DefaultMetricRule := do
  let fields ← Fields.ofValue? fieldNames false v
  return {
    name := ← fields.withDefault "name" none (Value.nullable? Value.text?)
    aggregation := ← fields.withDefault "aggregation" .sum (Aggregation.ofValue? kept)
    column := ← fields.withDefault "column" none (Value.nullable? Value.text?) }

end DefaultMetricRule

namespace Schema

/-- The fields of a schema. -/
def fieldNames : List String :=
  ["id", "name", "biz_name", "source_table", "full_path", "dimensions", "metrics",
    "default_metric", "internal_columns"]

/-- The fields of the schema with their values. -/
def toFields (s : Schema) : Fields :=
  [("id", .integer s.id),
   ("name", .text s.name),
   ("biz_name", .text s.bizName),
   ("source_table", .text s.sourceTable),
   ("full_path", .ofText? s.fullPath),
   ("dimensions", .list (s.dimensions.map Element.toValue)),
   ("metrics", .list (s.metrics.map Element.toValue)),
   ("default_metric", (s.defaultMetric.map DefaultMetricRule.toValue).getD .null),
   ("internal_columns", .object (s.internalColumns.entries.map fun e => (e.1, .text e.2)))]

def toValue (s : Schema) : Value :=
  .object s.toFields

/-- The schema of the given fields; `kept` tells that their values have been kept before. -/
def ofFields? (kept : Bool) (fields : Fields) : Option Schema := do
  return {
    id := ← fields.required "id" Value.word?
    name := ← fields.required "name" Value.text?
    bizName := ← fields.required "biz_name" Value.text?
    sourceTable := ← fields.required "source_table" Value.text?
    fullPath := ← fields.withDefault "full_path" none (Value.nullable? Value.text?)
    dimensions := ← fields.withDefault "dimensions" [] (Value.list? (Element.ofValue? kept))
    metrics := ← fields.withDefault "metrics" [] (Value.list? (Element.ofValue? kept))
    defaultMetric :=
      ← fields.withDefault "default_metric" none
        (Value.nullable? (DefaultMetricRule.ofValue? kept))
    internalColumns :=
      .ofList (← fields.withDefault "internal_columns" [] (Value.entries? Value.text?)) }

/-- The schema of a value that is looked at as it is read. -/
def ofValue? (v : Value) : Option Schema := do
  ofFields? false (← Fields.ofValue? fieldNames false v)

end Schema

namespace CatalogModel

/-- The field of a model that is no field of its schema. -/
def databaseTypeField : String := "database_type"

/-- A model is written as its schema with the type of its database among the fields. -/
def toValue (m : CatalogModel) : Value :=
  .object (m.schema.toFields ++ [(databaseTypeField, .ofText? m.databaseType)])

/-- The model of an object. The fields of the schema stand among others, so they are kept before
they are looked at, and everything in the object has to have a meaning. -/
def ofValue? (v : Value) : Option CatalogModel :=
  match v with
  | .object _ =>
    if v.isWellFormed then do
      let fields ← Fields.ofValue? (databaseTypeField :: Schema.fieldNames) false v
      return {
        schema := ← Schema.ofFields? true fields
        databaseType :=
          ← fields.withDefault databaseTypeField none (Value.nullable? Value.text?) }
    else none
  | _ => none

end CatalogModel

namespace Catalog

/-- The models that a catalog file lists, in each of which lists and objects lie at most `levels`
deep, where there is such a limit. -/
def modelsOfValue? (levels : Option Nat) (v : Value) : Option (List CatalogModel) := do
  let fields ← Fields.ofValue? ["models"] false v
  fields.withDefault "models" [] <| Value.list? fun v =>
    if levels.all (v.depth ≤ ·) then CatalogModel.ofValue? v else none

/-- A catalog file of these models. -/
def valueOfModels (models : List CatalogModel) : Value :=
  .object [("models", .list (models.map CatalogModel.toValue))]

end Catalog

end MetricQuery
