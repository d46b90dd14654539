import MetricQuery.Proofs.Compiler.DeclaredColumns

/-!
# Source columns — every listed name has its column

A derived table passes over a name that stands for nothing. None of the names of a logical table
does: each has been listed for an element that is found under it, for a reserved column, or for the
metric made up for the request. So the columns are those of the dimensions and then those of the
metrics, one for each name, and the rows are grouped by the dimensions if there are any.
-/

namespace MetricQuery

open MetricQuery.Text

/-- A column for the name of a dimension: that of the reserved column of this name, or that of an
element as it is stored. -/
def DimensionColumn (s : Schema) (name : String) (column : SourceColumn) : Prop :=
  match internalColumn? name with
  | some reserved => column = ⟨s.internalColumnExpr reserved, reserved⟩
  | none => ∃ d, s.findByName? name = some d
    ∧ column = ⟨d.element.physicalExpr, d.element.technicalName⟩

/-- A column for the name of a metric: the stored expression of a declared metric, aggregated. -/
def MetricColumn (s : Schema) (name : String) (column : SourceColumn) : Prop :=
  ∃ d, s.findByName? name = some d ∧ d.kind = .metric
    ∧ column = ⟨(d.element.aggregation.getD .sum).apply d.element.physicalExpr,
      d.element.technicalName⟩

theorem forall₂_filterMap {α β : Type} {f : α → Option β} {R : α → β → Prop} {xs : List α}
    (h : ∀ x ∈ xs, ∃ y, f x = some y ∧ R x y) : List.Forall₂ R xs (xs.filterMap f) := by
  induction xs with
  | nil => exact .nil
  | cons x xs ih =>
    obtain ⟨y, hy, hr⟩ := h x (.head _)
    rw [List.filterMap_cons_some hy]
    exact .cons hr (ih fun x hx => h x (.tail _ hx))

namespace Compilation

variable {c : Compiler} {databaseType : Option String} {schemas : List Schema} {r : Request}
  {out : Compiled} (k : Compilation c databaseType schemas r out) {name : String}

theorem exists_dimensionColumn (hlisted : name ∈ k.table.dimensions) :
    ∃ column, SourceQuery.dimensionColumn? k.scope name = some column
      ∧ DimensionColumn k.schema name column := by
  rw [SourceQuery.dimensionColumn?_eq]
  unfold DimensionColumn ColumnSource.ofDimension?
  cases hcolumn : internalColumn? name with
  | some reserved => exact ⟨_, rfl, rfl⟩
  | none =>
    obtain ⟨d, hfind, -⟩ := (k.refers_of_ordinary hlisted hcolumn).exists_findByName?
    have hfind' : k.scope.schema.find? name = some d := Schema.find?_eq_findByName? hfind
    refine ⟨_, ?_, d, hfind, rfl⟩
    rw [hfind']
    rfl

theorem exists_metricColumn (hmade : k.made = none) (hlisted : name ∈ k.classification.metrics) :
    ∃ column, SourceQuery.metricColumn? k.scope k.made name = some column
      ∧ MetricColumn k.schema name column := by
  have href : k.Refers .metric name := Classification.mem_metrics.1 hlisted
  obtain ⟨d, hfind, -⟩ := href.exists_findByName?
  have hfind' : k.scope.schema.find? name = some d := Schema.find?_eq_findByName? hfind
  -- what refers to the name may be another metric of it, but no dimension is found before a metric
  have hkind : d.kind = .metric := by
    have hlower := href.lower_eq
    obtain ⟨field, -, d', hfield, hkind, hname⟩ := href
    exact Schema.kind_of_findByName? (Schema.mem_elements_of_find? hfield) hkind
      (hname.trans hlower.symm) hfind
  refine ⟨_, ?_, d, hfind, hkind, rfl⟩
  rw [SourceQuery.metricColumn?_eq, hmade, ColumnSource.ofMetric?, hfind']
  rfl

/-- Whether the derived table reads each name of the logical table, in the order of the lists, and
groups the rows by the dimensions if there are any. -/
structure ReadsTable : Prop where
  dimensions : List.Forall₂ (DimensionColumn k.schema) k.table.dimensions k.source.dimensions
  /-- Metrics that have been classified are all there is to sum up. -/
  declared : k.classification.metrics ≠ [] → k.made = none
    ∧ k.table.metrics = k.classification.metrics
    ∧ List.Forall₂ (MetricColumn k.schema) k.table.metrics k.source.metrics
  /-- Without any the policy of the compiler makes up the only one. -/
  synthesized : k.classification.metrics = [] →
    ∃ m, k.made = some m ∧ m = c.defaultMetric k.schema k.table.dimensions
      ∧ k.table.metrics = [m.name] ∧ k.source.metrics = [⟨m.expr, m.name⟩]
  summed : k.source.metrics ≠ []
  text : k.source.render = "SELECT "
    ++ ", ".intercalate ((k.source.dimensions ++ k.source.metrics).map SourceColumn.render)
    ++ " FROM " ++ k.schema.sourceTable
    ++ if k.table.dimensions = [] then ""
      else " GROUP BY " ++ ", ".intercalate (k.source.dimensions.map SourceColumn.expr)

theorem dimension_columns :
    List.Forall₂ (DimensionColumn k.schema) k.table.dimensions k.source.dimensions :=
  forall₂_filterMap fun _ => k.exists_dimensionColumn

theorem metric_columns (h : k.classification.metrics ≠ []) : k.made = none
    ∧ k.table.metrics = k.classification.metrics
    ∧ List.Forall₂ (MetricColumn k.schema) k.table.metrics k.source.metrics := by
  -- a metric is made up only if none has been classified
  obtain ⟨hmade, htable, -⟩ | ⟨m, -, -, hnil⟩ := k.table_metrics
  · refine ⟨hmade, htable, forall₂_filterMap fun name hname => ?_⟩
    rw [htable] at hname
    exact k.exists_metricColumn hmade hname
  · exact absurd hnil h

theorem synthesized_column (h : k.classification.metrics = []) :
    ∃ m, k.made = some m ∧ m = c.defaultMetric k.schema k.table.dimensions
      ∧ k.table.metrics = [m.name] ∧ k.source.metrics = [⟨m.expr, m.name⟩] := by
  obtain ⟨-, -, hne⟩ | ⟨m, hmade, htable, -⟩ := k.table_metrics
  · exact absurd h hne
  · refine ⟨m, hmade, ?_, htable, ?_⟩
    · rw [k.table_dimensions]
      exact k.eq_defaultMetric_of_made hmade
    · rw [k.source_metrics, metricSources, SourceQuery.metricSources, htable, hmade]
      simp [ColumnSource.ofMetric?, ColumnSource.summed]

theorem source_metrics_ne_nil : k.source.metrics ≠ [] := by
  by_cases h : k.classification.metrics = []
  · obtain ⟨m, -, -, -, hmetrics⟩ := k.synthesized_column h
    simp [hmetrics]
  · obtain ⟨-, htable, hcolumns⟩ := k.metric_columns h
    intro hnil
    rw [hnil, List.forall₂_nil_right_iff, htable] at hcolumns
    exact h hcolumns

theorem render_source : k.source.render = "SELECT "
    ++ ", ".intercalate ((k.source.dimensions ++ k.source.metrics).map SourceColumn.render)
    ++ " FROM " ++ k.schema.sourceTable
    ++ if k.table.dimensions = [] then ""
      else " GROUP BY " ++ ", ".intercalate (k.source.dimensions.map SourceColumn.expr) := by
  have hcolumns : k.source.columns.isEmpty = false := by
    rw [List.isEmpty_eq_false_iff, SourceQuery.columns]
    exact List.append_ne_nil_of_right_ne_nil _ k.source_metrics_ne_nil
  -- as many columns are grouped by as there are dimensions
  have hgrouping : (k.source.dimensions.map SourceColumn.expr).isEmpty = true
      ↔ k.table.dimensions = [] := by
    rw [List.isEmpty_iff, List.map_eq_nil_iff, ← List.length_eq_zero_iff,
      ← k.dimension_columns.length_eq, List.length_eq_zero_iff]
  simp only [SourceQuery.render, hcolumns, hgrouping, k.grouping_source]
  rfl

end Compilation

/-- The derived table of a request that is answered with a query has exactly one column for each
name of the logical table, the dimensions first and each list in its order. The metrics are those
that have been classified, each aggregated, or the single one made up for the request. -/
theorem source_columns_of_convert {c : Compiler} {databaseType : Option String}
    {schemas : List Schema} {r : Request} {out : Compiled}
    (h : c.convert databaseType schemas r = .ok out) (hnonempty : out.isEmpty = false) :
    ∃ k : Compilation c databaseType schemas r out,
      out.logicalTable = some k.table
        ∧ Physical.attachSource k.table.name k.source.render k.renamed = .ok k.physical
        ∧ k.ReadsTable := by
  obtain ⟨k⟩ := Compiler.compilation_of_convert h hnonempty
  exact ⟨k, k.answered, k.attached, k.dimension_columns, k.metric_columns, k.synthesized_column,
    k.source_metrics_ne_nil, k.render_source⟩

/-- Of two dimensions of one name the first has the column, and rows are counted. -/
theorem source_columns_of_convert_namesake :
    ∃ k : Compilation .standard none [namesakeSchema] namesakeRequest namesakeAnswer,
      namesakeAnswer.logicalTable = some k.table
        ∧ Physical.attachSource k.table.name k.source.render k.renamed = .ok k.physical
        ∧ k.ReadsTable :=
  source_columns_of_convert convert_namesake (by decide)

end MetricQuery
