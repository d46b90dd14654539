import MetricQuery.Model.Schema
import MetricQuery.Text.Distinct

/-!
# Resolution — what a name in a query stands for

A name stands for a declared element if there is one of that name, else for a reserved column, the
metric made up for the query, or an output name of the query, in this order. A name is ambiguous if
users call one element by it while it is the technical name of another.
-/

namespace MetricQuery

open MetricQuery.Text

/-- What a name stands for. -/
inductive Target where
  | dimension (e : Element)
  | metric (e : Element)
  | internal (column : String)
  | defaultMetric
  | outputName
  | unknown
  deriving DecidableEq, Repr

/-- What a name stands for, and whether that is in doubt. -/
structure Resolution where
  target : Target
  ambiguous : Bool
  deriving DecidableEq, Repr

def Resolution.isUnknown (r : Resolution) : Bool :=
  r.target = .unknown

/-- The names that a query is read with: those of its model, the metric made up for it, and its
output names. -/
structure Scope where
  schema : Schema
  defaultMetric : Option String
  aliases : List String

namespace Scope

/-- A scope of a model's names alone. -/
def ofSchema (s : Schema) : Scope :=
  ⟨s, none, []⟩

/-- The element as what a name stands for. -/
def targetOf (d : Schema.Declared) : Target :=
  match d.kind with
  | .metric => .metric d.element
  | .dimension => .dimension d.element

/-- What a name stands for that no element bears. -/
def resolveUndeclared (scope : Scope) (name : String) : Target :=
  match internalColumn? name with
  | some column => .internal column
  | none =>
    if scope.defaultMetric.any (sameIgnoringAsciiCase · name) then .defaultMetric
    else if hasName scope.aliases name then .outputName
    else .unknown

/-- What a name stands for. -/
def resolve (scope : Scope) (name : String) : Resolution :=
  match scope.schema.findByName? name, scope.schema.findByTechnicalName? name with
  | some d, some d' => ⟨targetOf d, d ≠ d'⟩
  | some d, none | none, some d => ⟨targetOf d, false⟩
  | none, none => ⟨scope.resolveUndeclared name, false⟩

end Scope

end MetricQuery
