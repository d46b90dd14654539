import MetricQuery.Planning.SourceQuery
import MetricQuery.Proofs.Semantics.Classification

/-!
# Column sources — what the columns of a derived table come from

A listed name gives the derived table a column, and behind the column stands a declared element, a
reserved column or the metric made up for the query. A name that is listed as a dimension is taken
for a reserved column before it is looked up among the elements, so the element behind a column need
not be the one that the request has referred to. Different columns have different sources.
-/

namespace MetricQuery

open MetricQuery.Text

/-- What a column of a derived table comes from. -/
inductive ColumnSource where
  | element (d : Schema.Declared)
  | reserved (column : String)
  | made (m : SynthesizedMetric)
  deriving DecidableEq

namespace ColumnSource

/-- The output name of the column. -/
def output : ColumnSource → String
  | element d => d.element.technicalName
  | reserved column => column
  | made m => m.name

/-- The name that is listed for the source. -/
def key : ColumnSource → String
  | element d => lower d.element.name
  | reserved column => column
  | made m => m.name

/-- The column of a dimension. -/
def grouped (s : Schema) : ColumnSource → SourceColumn
  | element d => ⟨d.element.physicalExpr, d.element.technicalName⟩
  | reserved column => ⟨s.internalColumnExpr column, column⟩
  | made m => ⟨m.expr, m.name⟩

/-- The column of a metric. -/
def summed (s : Schema) : ColumnSource → SourceColumn
  | element d => ⟨d.element.summedExpr, d.element.technicalName⟩
  | reserved column => ⟨s.internalColumnExpr column, column⟩
  | made m => ⟨m.expr, m.name⟩

@[simp]
theorem output_grouped (s : Schema) (src : ColumnSource) : (src.grouped s).output = src.output := by
  cases src <;> rfl

@[simp]
theorem output_summed (s : Schema) (src : ColumnSource) : (src.summed s).output = src.output := by
  cases src <;> rfl

/-- What a name that is listed as a dimension stands for. -/
def ofDimension? (s : Schema) (name : String) : Option ColumnSource :=
  match internalColumn? name with
  | some column => some (.reserved column)
  | none => (s.find? name).map .element

/-- What a name that is listed as a metric stands for. -/
def ofMetric? (s : Schema) (made : Option SynthesizedMetric) (name : String) :
    Option ColumnSource :=
  match made with
  | some m => if m.name = name then some (.made m) else (s.find? name).map .element
  | none => (s.find? name).map .element

end ColumnSource

namespace SourceQuery

open ColumnSource

/-- The column of the element that a name stands for. -/
theorem resolved_column (scope : Scope) (name : String) (column : Element → SourceColumn) :
    (match (scope.resolve name).target with
      | .dimension e | .metric e => some (column e)
      | _ => none) = (scope.schema.find? name).map fun d => column d.element := by
  have helement := congrArg (Option.map column) (scope.element?_resolve name)
  rw [Option.map_map] at helement
  refine Eq.trans ?_ helement
  cases (scope.resolve name).target <;> rfl

theorem dimensionColumn?_eq (scope : Scope) (name : String) :
    dimensionColumn? scope name = (ofDimension? scope.schema name).map (grouped scope.schema) := by
  unfold dimensionColumn? ofDimension?
  cases internalColumn? name with
  | some column => rfl
  | none =>
    refine (resolved_column scope name fun e => ⟨e.physicalExpr, e.technicalName⟩).trans ?_
    rw [Option.map_map]
    rfl

theorem metricColumn?_eq (scope : Scope) (made : Option SynthesizedMetric) (name : String) :
    metricColumn? scope made name
      = (ofMetric? scope.schema made name).map (summed scope.schema) := by
  have hdeclared := resolved_column scope name fun e => ⟨e.summedExpr, e.technicalName⟩
  unfold metricColumn? ofMetric?
  cases made with
  | none =>
    refine hdeclared.trans ?_
    rw [Option.map_map]
    rfl
  | some m =>
    dsimp only
    split
    · rfl
    · refine hdeclared.trans ?_
      rw [Option.map_map]
      rfl

/-- The sources of the dimensions of a logical table. -/
def dimensionSources (s : Schema) (t : LogicalTable) : List ColumnSource :=
  t.dimensions.filterMap (ofDimension? s)

/-- The sources of the metrics of a logical table. -/
def metricSources (s : Schema) (made : Option SynthesizedMetric) (t : LogicalTable) :
    List ColumnSource :=
  t.metrics.filterMap (ofMetric? s made)

variable {scope : Scope} {made : Option SynthesizedMetric} {t : LogicalTable}

theorem ofTable_dimensions :
    (ofTable scope made t).dimensions
      = (dimensionSources scope.schema t).map (grouped scope.schema) := by
  rw [dimensionSources, List.map_filterMap]
  exact congrArg (List.filterMap · _) (funext fun name => dimensionColumn?_eq scope name)

theorem ofTable_metrics :
    (ofTable scope made t).metrics
      = (metricSources scope.schema made t).map (summed scope.schema) := by
  rw [metricSources, List.map_filterMap]
  exact congrArg (List.filterMap · _) (funext fun name => metricColumn?_eq scope made name)

theorem ofTable_outputs :
    (ofTable scope made t).columns.map SourceColumn.output
      = (dimensionSources scope.schema t ++ metricSources scope.schema made t).map output := by
  rw [columns, ofTable_dimensions, ofTable_metrics, List.map_append, List.map_map, List.map_map,
    List.map_append]
  congr 1
  · exact List.map_congr_left fun src _ => output_grouped _ src
  · exact List.map_congr_left fun src _ => output_summed _ src

end SourceQuery

end MetricQuery
