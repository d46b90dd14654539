import MetricQuery.Model.Schema

/-!
# Classification — which metrics and dimensions a list of fields refers to

A field counts as the element of the model that it names, be it by the users' or by the technical
name; the element is listed once, by its users' name in lower case. Reserved columns that a text
mentions are dimensions too. A name that is listed as a metric is not listed as a dimension.
-/

namespace MetricQuery

open MetricQuery.Text

/-- The metrics and dimensions that are referred to. -/
structure Classification where
  metrics : List String
  dimensions : List String
  deriving DecidableEq, Repr

namespace Classification

def isEmpty (c : Classification) : Bool :=
  c.metrics.isEmpty && c.dimensions.isEmpty

/-- The list with a name at its end, unless it is there already. -/
def pushNew (names : List String) (name : String) : List String :=
  if names.contains name then names else names ++ [name]

/-- The names of the elements of a kind that fields refer to. -/
def namesOfKind (s : Schema) (kind : ElementKind) (fields : List String) : List String :=
  ((fields.filterMap s.find?).filter (·.kind = kind)).map fun d => lower d.element.name

/-- What fields and a text refer to in a model; nothing if the model declares nothing. -/
def ofFields (s : Schema) (fields : List String) (text : String) : Classification :=
  if s.isEmpty then ⟨[], []⟩
  else
    let metrics := (namesOfKind s .metric fields).foldl pushNew []
    let dimensions :=
      (namesOfKind s .dimension fields ++ internalColumnsIn text).foldl pushNew []
    ⟨metrics, dimensions.filter fun d => !metrics.contains d⟩

end Classification

end MetricQuery
