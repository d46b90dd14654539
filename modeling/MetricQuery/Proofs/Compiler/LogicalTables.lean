import MetricQuery.Proofs.Compiler.DerivedTable

/-!
# Logical tables — what the two lists of a table have in common

Metrics and dimensions are told apart when the fields of a request are classified. The metric made
up for a request without one comes later, under a name that the model chooses. Nobody looks whether
a dimension is called like that, so this name may stand in both lists.
-/

namespace MetricQuery

open MetricQuery.Text Classification

/-- The name of the metric that the catalog's policy makes up for a model. -/
def Schema.defaultMetricName (s : Schema) : String :=
  (s.defaultMetric.getD .rowCount).outputName s

/-- Whether a logical table has something to sum up, names nothing twice in one list, and writes all
names in lower case. -/
structure LogicalTable.WellFormed (t : LogicalTable) : Prop where
  metrics_ne_nil : t.metrics ≠ []
  nodup_metrics : t.metrics.Nodup
  nodup_dimensions : t.dimensions.Nodup
  lower_name : lower t.name = t.name
  lower_names : ∀ name ∈ t.metrics ++ t.dimensions, lower name = name

namespace Compilation

variable {c : Compiler} {databaseType : Option String} {schemas : List Schema} {r : Request}
  {out : Compiled} (k : Compilation c databaseType schemas r out)

theorem table_name : k.table.name = lower k.tableName := by
  have h := k.classified
  unfold Compiler.logicalTable at h
  dsimp only at h
  split at h <;> exact (congrArg (LogicalTable.name ∘ Prod.fst) h).symm

theorem lower_dimension {name : String} (h : name ∈ k.table.dimensions) : lower name = name := by
  obtain ⟨-, href | hin, -⟩ := k.mem_table_dimensions.1 h
  · exact href.lower_eq
  · exact lower_of_mem_internalColumns (mem_internalColumns_of_mem_internalColumnsIn hin)

/-- Whether a dimension is called like the metric made up for the request: a field is found as a
dimension of the name, or it is that of a reserved column in the text. -/
def NamesDimension (name : String) : Prop :=
  k.schema.isEmpty = false
    ∧ (k.Refers .dimension name ∨ name ∈ internalColumnsIn (c.requestText databaseType r))

section

variable (hpolicy : c.defaultMetric = catalogDefaultMetric)

include hpolicy

theorem name_of_made {m : SynthesizedMetric} (h : k.made = some m) :
    m.name = k.schema.defaultMetricName := by
  rw [k.eq_defaultMetric_of_made h, hpolicy]
  rfl

theorem lower_metric {name : String} (h : name ∈ k.table.metrics) : lower name = name := by
  obtain ⟨-, htable, -⟩ | ⟨m, hmade, htable, -⟩ := k.table_metrics
  · rw [htable] at h
    exact (mem_metrics.1 h).lower_eq
  · rw [htable, List.mem_singleton] at h
    rw [h, k.name_of_made hpolicy hmade]
    exact lower_lower _

theorem table_wellFormed : k.table.WellFormed where
  metrics_ne_nil := by
    obtain ⟨-, htable, hne⟩ | ⟨m, -, htable, -⟩ := k.table_metrics
    · rwa [htable]
    · rw [htable]
      exact List.cons_ne_nil _ _
  nodup_metrics := k.nodup_table_metrics
  nodup_dimensions := k.nodup_table_dimensions
  lower_name := by rw [k.table_name, lower_lower]
  lower_names name hname := (List.mem_append.1 hname).elim (k.lower_metric hpolicy) k.lower_dimension

/-- A name is in both lists exactly if there is no metric and a dimension is called like the one
made up. -/
theorem disjoint_iff : k.table.metrics.Disjoint k.table.dimensions
    ↔ (∃ name, k.Refers .metric name) ∨ ¬ k.NamesDimension k.schema.defaultMetricName := by
  obtain ⟨-, htable, hne⟩ | ⟨m, hmade, htable, -⟩ := k.table_metrics
  · obtain ⟨metric, hmetric⟩ := List.exists_mem_of_ne_nil _ hne
    refine ⟨fun _ => .inl ⟨metric, mem_metrics.1 hmetric⟩, fun _ name hmem => ?_⟩
    -- what is listed as a metric is left out of the dimensions
    rw [htable] at hmem
    intro hdimension
    exact (k.mem_table_dimensions.1 hdimension).2.2 (mem_metrics.1 hmem)
  · -- the metric made up is the only one, so its name decides
    have hnot := k.not_refers_metric_of_made hmade
    rw [htable, List.singleton_disjoint, k.mem_table_dimensions, k.name_of_made hpolicy hmade]
    constructor
    · exact fun h => .inr fun hnames => h ⟨hnames.1, hnames.2, hnot _⟩
    · rintro (⟨name, hname⟩ | hnames) hlisted
      · exact hnot name hname
      · exact hnames ⟨hlisted.1, hlisted.2.1⟩

end

end Compilation

/-- The logical table of an answer is well-formed, whatever the model, the request and the engine.
Its two lists are disjoint unless the request has no metric and refers to a dimension that is called
like the metric made up for it. -/
theorem logical_table_of_convert {c : Compiler} {databaseType : Option String}
    {schemas : List Schema} {r : Request} {out : Compiled}
    (hpolicy : c.defaultMetric = catalogDefaultMetric)
    (h : c.convert databaseType schemas r = .ok out) (hnonempty : out.isEmpty = false) :
    ∃ k : Compilation c databaseType schemas r out,
      out.logicalTable = some k.table ∧ k.table.WellFormed
        ∧ (k.table.metrics.Disjoint k.table.dimensions
          ↔ (∃ name, k.Refers .metric name)
            ∨ ¬ k.NamesDimension k.schema.defaultMetricName) := by
  obtain ⟨k⟩ := Compiler.compilation_of_convert h hnonempty
  exact ⟨k, k.answered, k.table_wellFormed hpolicy, k.disjoint_iff hpolicy⟩

/-- A model that counts a dimension's values under the name of the dimension. -/
def buyersSchema : Schema :=
  { (Schema.ofNames 1 "t" "t" "dw.t").withDimension (.named "buyers" "buyer_id") with
    defaultMetric := some ⟨some "Buyers", .countDistinct, some "buyers"⟩ }

/-- A request for the dimension. -/
def buyersRequest : Request :=
  ⟨1, "select buyers from t", []⟩

def buyersAnswer : Compiled where
  sql := "SELECT buyer_id FROM (SELECT buyer_id, COUNT(DISTINCT buyer_id) AS buyers FROM dw.t "
    ++ "GROUP BY buyer_id) AS t LIMIT 1000"
  logicalTable := some ⟨"t", ["buyers"], ["buyers"]⟩
  hasAggregation := false
  warnings := []

theorem convert_buyers :
    Compiler.standard.convert none [buyersSchema] buyersRequest = .ok buyersAnswer := by
  decide +kernel

theorem logical_table_of_convert_buyers :
    ∃ k : Compilation .standard none [buyersSchema] buyersRequest buyersAnswer,
      buyersAnswer.logicalTable = some k.table ∧ k.table.WellFormed
        ∧ (k.table.metrics.Disjoint k.table.dimensions
          ↔ (∃ name, k.Refers .metric name)
            ∨ ¬ k.NamesDimension k.schema.defaultMetricName) :=
  logical_table_of_convert rfl convert_buyers (by decide +kernel)

/-- The name that the model gives to its metric is that of the dimension. -/
theorem logical_table_not_disjoint :
    Compiler.standard.defaultMetric = catalogDefaultMetric
      ∧ Compiler.standard.convert none [buyersSchema] buyersRequest = .ok buyersAnswer
      ∧ buyersAnswer.isEmpty = false
      ∧ ∃ t, buyersAnswer.logicalTable = some t ∧ ¬ t.metrics.Disjoint t.dimensions := by
  refine ⟨rfl, convert_buyers, by decide +kernel, _, rfl, fun hdisjoint => ?_⟩
  exact hdisjoint (.head _) (.head _)

end MetricQuery
