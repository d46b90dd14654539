import MetricQuery.Data.SortedMap
import MetricQuery.Model.InternalColumn

/-!
# Schemas — what a model offers to queries, and where it is stored

A model reads one table of the store. It declares dimensions, which describe rows, and metrics,
which are summed up over rows; each has a name that users write and a technical name. A name is
looked up in any letter case, a metric is found before a dimension, and a match of the users' name
before one of the technical name.
-/

namespace MetricQuery

open MetricQuery.Text

/-- The type of a declared element. -/
inductive DataType where
  | string | int | decimal | float | bool | date | timestamp
  deriving DecidableEq, Repr

/-- How the values of a metric are summed up. -/
inductive Aggregation where
  | sum | count | countDistinct | avg | max | min
  deriving DecidableEq, Repr

/-- The text of an expression summed up. -/
def Aggregation.apply (a : Aggregation) (expr : String) : String :=
  match a with
  | sum => "SUM(" ++ expr ++ ")"
  | count => "COUNT(" ++ expr ++ ")"
  | countDistinct => "COUNT(DISTINCT " ++ expr ++ ")"
  | avg => "AVG(" ++ expr ++ ")"
  | max => "MAX(" ++ expr ++ ")"
  | min => "MIN(" ++ expr ++ ")"

/-- A declared dimension or metric. -/
structure Element where
  name : String
  technicalName : String
  dataType : DataType
  /-- What is read from the store; the technical name if there is none. -/
  expr : Option String
  aggregation : Option Aggregation
  deriving DecidableEq, Repr

namespace Element

/-- An element of which only the names are given. -/
def named (name technicalName : String) : Element :=
  ⟨name, technicalName, .string, none, none⟩

/-- What is read from the store for the element. -/
def physicalExpr (e : Element) : String :=
  e.expr.getD e.technicalName

/-- How the element is summed up when it stands as a metric. -/
def summedExpr (e : Element) : String :=
  (e.aggregation.getD .sum).apply e.physicalExpr

end Element

/-- Which of the two kinds of element one is. -/
inductive ElementKind where
  | dimension | metric
  deriving DecidableEq, Repr

/-- The name of the kind. -/
def ElementKind.name : ElementKind → String
  | dimension => "dimension"
  | metric => "metric"

/-- The rule for the metric of a query that asks for none. -/
structure DefaultMetricRule where
  name : Option String
  aggregation : Aggregation
  /-- What is summed up; rows if there is none. -/
  column : Option String
  deriving DecidableEq, Repr

/-- The number of rows. -/
def DefaultMetricRule.rowCount : DefaultMetricRule :=
  ⟨none, .count, none⟩

/-- A model: its names, its table, and what it declares. -/
structure Schema where
  id : Nat
  name : String
  bizName : String
  sourceTable : String
  fullPath : Option String
  dimensions : List Element
  metrics : List Element
  defaultMetric : Option DefaultMetricRule
  /-- What is read from the store for reserved columns; the others are read by their names. -/
  internalColumns : SortedMap String String

namespace Schema

/-- A model that declares nothing yet. -/
def ofNames (id : Nat) (name bizName sourceTable : String) : Schema :=
  ⟨id, name, bizName, sourceTable, none, [], [], none, .empty⟩

/-- Whether the model declares no element. -/
def isEmpty (s : Schema) : Bool :=
  s.dimensions.isEmpty && s.metrics.isEmpty

/-- A declared element with its kind and its place among the elements of its kind. -/
structure Declared where
  kind : ElementKind
  place : Nat
  element : Element
  deriving DecidableEq, Repr

/-- All elements, the metrics first. -/
def elements (s : Schema) : List Declared :=
  s.metrics.mapIdx (⟨.metric, ·, ·⟩) ++ s.dimensions.mapIdx (⟨.dimension, ·, ·⟩)

/-- The element that users call by a name. -/
def findByName? (s : Schema) (name : String) : Option Declared :=
  s.elements.find? fun d => sameName d.element.name name

/-- The element of a technical name. -/
def findByTechnicalName? (s : Schema) (name : String) : Option Declared :=
  s.elements.find? fun d => sameName d.element.technicalName name

/-- The element of a name, be it the users' or a technical one. -/
def find? (s : Schema) (name : String) : Option Declared :=
  (s.findByName? name).or (s.findByTechnicalName? name)

/-- What is read from the store for a reserved column. -/
def internalColumnExpr (s : Schema) (column : String) : String :=
  ((s.internalColumns.entries.find? fun e => sameIgnoringAsciiCase e.1 column).map (·.2)).getD
    column

/-! ## Building a schema up -/

def withDimension (s : Schema) (e : Element) : Schema :=
  { s with dimensions := s.dimensions ++ [e] }

def withMetric (s : Schema) (e : Element) : Schema :=
  { s with metrics := s.metrics ++ [e] }

def withDefaultMetric (s : Schema) (rule : DefaultMetricRule) : Schema :=
  { s with defaultMetric := some rule }

def withInternalColumn (s : Schema) (column expr : String) : Schema :=
  { s with internalColumns := s.internalColumns.insert column expr }

def withFullPath (s : Schema) (path : String) : Schema :=
  { s with fullPath := some path }

end Schema

end MetricQuery
