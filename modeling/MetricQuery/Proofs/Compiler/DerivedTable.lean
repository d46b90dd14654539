import Mathlib.Data.List.Nodup
import Mathlib.Data.List.Pairwise
import MetricQuery.Proofs.Compiler.Compilation
import MetricQuery.Proofs.Planning.ColumnSource

/-!
# The derived table of a compilation — where its columns come from

Each source that the request groups by or sums up gives the derived table exactly one column, and
there are no other columns. What is grouped by and what is summed up is said in terms of the fields
that the request refers to, without the lists that the compiler makes of them.
-/

namespace MetricQuery

open MetricQuery.Text Classification

namespace Compilation

variable {c : Compiler} {databaseType : Option String} {schemas : List Schema} {r : Request}
  {out : Compiled} (k : Compilation c databaseType schemas r out)

/-! ## The logical table -/

theorem table_dimensions : k.table.dimensions = k.classification.dimensions := by
  have h := k.classified
  unfold Compiler.logicalTable at h
  dsimp only at h
  split at h <;> exact (congrArg (LogicalTable.dimensions ∘ Prod.fst) h).symm

/-- The metrics are those that are referred to, or else the one made up for the query. -/
theorem table_metrics :
    (k.made = none ∧ k.table.metrics = k.classification.metrics ∧ k.classification.metrics ≠ [])
      ∨ ∃ m, k.made = some m ∧ k.table.metrics = [m.name] ∧ k.classification.metrics = [] := by
  have h := k.classified
  unfold Compiler.logicalTable at h
  dsimp only at h
  split at h
  · next hempty =>
    refine .inr ⟨_, (congrArg Prod.snd h).symm, ?_, List.isEmpty_iff.1 hempty⟩
    exact (congrArg (LogicalTable.metrics ∘ Prod.fst) h).symm
  · next hsome =>
    refine .inl ⟨(congrArg Prod.snd h).symm, ?_, fun hnil => hsome (List.isEmpty_iff.2 hnil)⟩
    exact (congrArg (LogicalTable.metrics ∘ Prod.fst) h).symm

theorem nodup_table_dimensions : k.table.dimensions.Nodup := by
  rw [k.table_dimensions]
  exact nodup_dimensions

theorem nodup_table_metrics : k.table.metrics.Nodup := by
  obtain ⟨-, htable, -⟩ | ⟨m, -, htable, -⟩ := k.table_metrics
  · rw [htable]
    exact nodup_metrics
  · rw [htable]
    exact List.pairwise_singleton _ _

/-- The metric made up for the query is the one that the policy of the compiler answers with. -/
theorem eq_defaultMetric_of_made {m : SynthesizedMetric} (h : k.made = some m) :
    m = c.defaultMetric k.schema k.classification.dimensions := by
  have hclassified := k.classified
  unfold Compiler.logicalTable at hclassified
  dsimp only at hclassified
  split at hclassified
  · exact Option.some.inj (h.symm.trans (congrArg Prod.snd hclassified).symm)
  · have hnone : k.made = none := (congrArg Prod.snd hclassified).symm
    rw [hnone] at h
    cases h

/-! ## What is grouped by and what is summed up -/

/-- Whether a field of the request is found as an element of the kind that has the name. -/
def Refers (kind : ElementKind) (name : String) : Prop :=
  Classification.Refers k.schema k.fields kind name

/-- Whether the request groups by a source: by an element that is found under its own name, or by a
reserved column. -/
def GroupsBy : ColumnSource → Prop
  | .element d =>
    k.schema.findByName? d.element.name = some d
      ∧ internalColumn? (lower d.element.name) = none
      ∧ k.Refers .dimension (lower d.element.name) ∧ ¬ k.Refers .metric (lower d.element.name)
  | .reserved column =>
    k.schema.isEmpty = false ∧ column ∈ internalColumns
      ∧ (k.Refers .dimension column ∨ hasWord column (c.requestText databaseType r) = true)
      ∧ ¬ k.Refers .metric column
  | .made _ => False

/-- Whether the request sums a source up: an element that is found under its own name, or the metric
made up for it. -/
def SumsUp : ColumnSource → Prop
  | .element d =>
    k.schema.findByName? d.element.name = some d ∧ k.Refers .metric (lower d.element.name)
  | .reserved _ => False
  | .made m => k.made = some m

/-- The sources of the dimensions. -/
def dimensionSources : List ColumnSource :=
  SourceQuery.dimensionSources k.schema k.table

/-- The sources of the metrics. -/
def metricSources : List ColumnSource :=
  SourceQuery.metricSources k.schema k.made k.table

theorem source_dimensions :
    k.source.dimensions = k.dimensionSources.map (ColumnSource.grouped k.schema) :=
  SourceQuery.ofTable_dimensions

theorem source_metrics :
    k.source.metrics = k.metricSources.map (ColumnSource.summed k.schema) :=
  SourceQuery.ofTable_metrics

theorem source_outputs :
    k.source.columns.map SourceColumn.output
      = (k.dimensionSources ++ k.metricSources).map ColumnSource.output :=
  SourceQuery.ofTable_outputs

theorem mem_table_dimensions {name : String} :
    name ∈ k.table.dimensions
      ↔ k.schema.isEmpty = false
        ∧ (k.Refers .dimension name ∨ name ∈ internalColumnsIn (c.requestText databaseType r))
        ∧ ¬ k.Refers .metric name := by
  rw [k.table_dimensions]
  exact mem_dimensions

theorem not_refers_metric_of_made {m : SynthesizedMetric} (h : k.made = some m) (name : String) :
    ¬ k.Refers .metric name := by
  obtain ⟨hnone, -⟩ | ⟨-, -, -, hnil⟩ := k.table_metrics
  · rw [hnone] at h
    cases h
  · intro href
    have hmem : name ∈ k.classification.metrics := mem_metrics.2 href
    rw [hnil] at hmem
    cases hmem

/-- A name that is listed finds what bears it. -/
theorem find?_of_refers {kind : ElementKind} {name : String} (h : k.Refers kind name)
    {d : Schema.Declared} (hfind : k.schema.find? name = some d) :
    lower d.element.name = name ∧ k.schema.findByName? d.element.name = some d := by
  obtain ⟨d', hd', hname⟩ := h.exists_findByName?
  rw [Schema.find?_eq_findByName? hd', Option.some.injEq] at hfind
  subst hfind
  refine ⟨hname, ?_⟩
  rw [k.schema.findByName?_congr (a := d'.element.name) (b := name) (by rw [hname, h.lower_eq])]
  exact hd'

theorem find?_of_findByName? {d : Schema.Declared}
    (h : k.schema.findByName? d.element.name = some d) :
    k.schema.find? (lower d.element.name) = some d := by
  apply Schema.find?_eq_findByName?
  rw [k.schema.findByName?_congr (lower_lower _)]
  exact h

/-- A dimension is listed because a field refers to it, unless it is a reserved column. -/
theorem refers_of_ordinary {name : String} (hlisted : name ∈ k.table.dimensions)
    (h : internalColumn? name = none) : k.Refers .dimension name := by
  obtain ⟨-, hname, -⟩ := k.mem_table_dimensions.1 hlisted
  refine hname.resolve_right fun hin => ?_
  have hmem := mem_internalColumns_of_mem_internalColumnsIn hin
  rw [internalColumn?_eq_some.2 ⟨hmem, asciiLower_of_mem_internalColumns hmem⟩] at h
  cases h

/-- What a name that is listed as a dimension stands for is grouped by, and bears that name. -/
theorem groupsBy_of_ofDimension? {name : String} {src : ColumnSource}
    (hlisted : name ∈ k.table.dimensions)
    (h : ColumnSource.ofDimension? k.schema name = some src) :
    k.GroupsBy src ∧ src.key = name := by
  obtain ⟨hempty, hname, hmetric⟩ := k.mem_table_dimensions.1 hlisted
  unfold ColumnSource.ofDimension? at h
  cases hcolumn : internalColumn? name with
  | some column =>
    rw [hcolumn, Option.some.injEq] at h
    subst h
    -- listed names are in lower case, so the name is that of the reserved column itself
    have hlower : lower name = name := by
      rcases hname with href | hin
      · exact href.lower_eq
      · exact lower_of_mem_internalColumns (mem_internalColumns_of_mem_internalColumnsIn hin)
    obtain rfl : column = name := by rw [← lower_of_internalColumn? hcolumn, hlower]
    refine ⟨⟨hempty, mem_internalColumns_of_internalColumn? hcolumn, ?_, hmetric⟩, rfl⟩
    exact hname.imp_right fun hin => (List.mem_filter (p := (hasWord · _)).1 hin).2
  | none =>
    rw [hcolumn] at h
    obtain ⟨d, hfind, rfl⟩ := Option.map_eq_some_iff.1 h
    -- the text's own reserved columns have gone the other way
    have href := k.refers_of_ordinary hlisted hcolumn
    obtain ⟨hkey, hfound⟩ := k.find?_of_refers href hfind
    refine ⟨⟨hfound, ?_, ?_, ?_⟩, hkey⟩
    · rw [hkey, hcolumn]
    · rw [hkey]
      exact href
    · rw [hkey]
      exact hmetric

theorem mem_dimensionSources {src : ColumnSource} :
    src ∈ k.dimensionSources ↔ k.GroupsBy src := by
  rw [dimensionSources, SourceQuery.dimensionSources, List.mem_filterMap]
  constructor
  · rintro ⟨name, hlisted, h⟩
    exact (k.groupsBy_of_ofDimension? hlisted h).1
  · intro h
    -- a source is found again under its own key
    refine ⟨src.key, ?_⟩
    rw [mem_table_dimensions]
    cases src with
    | made m => cases h
    | element d =>
      obtain ⟨hfind, hcolumn, href, hmetric⟩ := h
      refine ⟨⟨href.isEmpty_eq_false, .inl href, hmetric⟩, ?_⟩
      simp only [ColumnSource.ofDimension?, ColumnSource.key, hcolumn,
        k.find?_of_findByName? hfind, Option.map_some]
    | reserved column =>
      obtain ⟨hempty, hmem, href, hmetric⟩ := h
      refine ⟨⟨hempty, href.imp_right fun hword => List.mem_filter.2 ⟨hmem, hword⟩, hmetric⟩, ?_⟩
      simp only [ColumnSource.ofDimension?, ColumnSource.key,
        internalColumn?_eq_some.2 ⟨hmem, asciiLower_of_mem_internalColumns hmem⟩]

/-- What a name that is listed as a metric stands for is summed up, and bears that name. -/
theorem sumsUp_of_ofMetric? {name : String} {src : ColumnSource}
    (hlisted : name ∈ k.table.metrics)
    (h : ColumnSource.ofMetric? k.schema k.made name = some src) :
    k.SumsUp src ∧ src.key = name := by
  obtain ⟨hnone, htable, -⟩ | ⟨m, hsome, htable, -⟩ := k.table_metrics
  · rw [htable] at hlisted
    have href : k.Refers .metric name := mem_metrics.1 hlisted
    rw [hnone] at h
    obtain ⟨d, hfind, rfl⟩ := Option.map_eq_some_iff.1 h
    obtain ⟨hkey, hfound⟩ := k.find?_of_refers href hfind
    refine ⟨⟨hfound, ?_⟩, hkey⟩
    rw [hkey]
    exact href
  · rw [htable, List.mem_singleton] at hlisted
    subst hlisted
    rw [hsome] at h
    simp only [ColumnSource.ofMetric?, if_true, Option.some.injEq] at h
    subst h
    exact ⟨hsome, rfl⟩

theorem mem_metricSources {src : ColumnSource} : src ∈ k.metricSources ↔ k.SumsUp src := by
  rw [metricSources, SourceQuery.metricSources, List.mem_filterMap]
  constructor
  · rintro ⟨name, hlisted, h⟩
    exact (k.sumsUp_of_ofMetric? hlisted h).1
  · intro h
    -- a metric is made up only if none is asked for, and then it stands alone in the table
    refine ⟨src.key, ?_⟩
    cases src with
    | reserved column => cases h
    | made m =>
      obtain ⟨hnone, -⟩ | ⟨m', hsome, htable, -⟩ := k.table_metrics
      · rw [show k.made = some m from h] at hnone
        cases hnone
      · obtain rfl : m = m' := Option.some.inj ((show k.made = some m from h).symm.trans hsome)
        rw [htable, hsome]
        exact ⟨List.mem_singleton_self _, if_pos rfl⟩
    | element d =>
      obtain ⟨hfind, href⟩ := h
      obtain ⟨hnone, htable, -⟩ | ⟨m', hsome, -⟩ := k.table_metrics
      · rw [htable, hnone]
        refine ⟨mem_metrics.2 href, ?_⟩
        simp only [ColumnSource.ofMetric?, ColumnSource.key, k.find?_of_findByName? hfind,
          Option.map_some]
      · exact absurd href (k.not_refers_metric_of_made hsome _)

/-! ## Each source has one column -/

/-- The sources of different names are different. -/
theorem nodup_filterMap_of_key {names : List String} {source? : String → Option ColumnSource}
    (hnames : names.Nodup)
    (hkey : ∀ name ∈ names, ∀ src, source? name = some src → src.key = name) :
    (names.filterMap source?).Nodup := by
  rw [List.Nodup, List.pairwise_filterMap]
  refine hnames.imp_of_mem fun ha hb hne src hsrc src' hsrc' heq => hne ?_
  rw [← hkey _ ha _ hsrc, ← hkey _ hb _ hsrc', heq]

theorem nodup_sources : (k.dimensionSources ++ k.metricSources).Nodup := by
  have hdimensions : k.dimensionSources.Nodup :=
    nodup_filterMap_of_key k.nodup_table_dimensions fun name hname src h =>
      (k.groupsBy_of_ofDimension? hname h).2
  have hmetrics : k.metricSources.Nodup :=
    nodup_filterMap_of_key k.nodup_table_metrics fun name hname src h =>
      (k.sumsUp_of_ofMetric? hname h).2
  -- no source is on both sides: what a metric refers to is not grouped by
  refine List.nodup_append.2 ⟨hdimensions, hmetrics, fun src hsrc src' hsrc' heq => ?_⟩
  subst heq
  rw [mem_dimensionSources] at hsrc
  rw [mem_metricSources] at hsrc'
  cases src with
  | element d => exact hsrc.2.2.2 hsrc'.2
  | reserved column => exact hsrc'
  | made m => exact hsrc

/-- Whether the derived table reads a source. -/
def Reads (src : ColumnSource) : Prop :=
  k.GroupsBy src ∨ k.SumsUp src

theorem mem_sources {src : ColumnSource} :
    src ∈ k.dimensionSources ++ k.metricSources ↔ k.Reads src := by
  rw [List.mem_append, mem_dimensionSources, mem_metricSources, Reads]

/-- The output names are pairwise distinct exactly if no two sources have the same one. -/
theorem pairwise_outputs_iff :
    ((k.source.columns.map SourceColumn.output).Pairwise fun a b => sameName a b = false)
      ↔ ∀ a b, k.Reads a → k.Reads b → a ≠ b → sameName a.output b.output = false := by
  rw [source_outputs, List.pairwise_map]
  constructor
  · intro h a b ha hb hne
    have hsymm : Std.Symm fun a b : ColumnSource => sameName a.output b.output = false :=
      ⟨fun a b hab => by rw [sameName_comm]; exact hab⟩
    exact h.forall (k.mem_sources.2 ha) (k.mem_sources.2 hb) hne
  · intro h
    exact k.nodup_sources.pairwise_of_forall_ne fun a ha b hb hne =>
      h a b (k.mem_sources.1 ha) (k.mem_sources.1 hb) hne

end Compilation

/-- The derived table of a request that is answered with a query has pairwise distinct output names,
letter case aside, exactly if no two things that it reads from the store share one: no two of the
elements, the reserved columns and the metric made up for the request. -/
theorem output_names_distinct_iff {c : Compiler} {databaseType : Option String}
    {schemas : List Schema} {r : Request} {out : Compiled}
    (h : c.convert databaseType schemas r = .ok out) (hnonempty : out.isEmpty = false) :
    ∃ k : Compilation c databaseType schemas r out,
      Physical.attachSource k.table.name k.source.render k.renamed = .ok k.physical
        ∧ (((k.source.columns.map SourceColumn.output).Pairwise fun a b => sameName a b = false)
          ↔ ∀ a b, k.Reads a → k.Reads b → a ≠ b → sameName a.output b.output = false) := by
  obtain ⟨k⟩ := Compiler.compilation_of_convert h hnonempty
  exact ⟨k, k.attached, k.pairwise_outputs_iff⟩

/-- A model with a dimension and a metric that are read from one column. -/
def sharedColumnSchema : Schema :=
  ((Schema.ofNames 1 "t" "t" "dw.t").withDimension (.named "city" "c")).withMetric
    (.named "amount" "c")

/-- A request for the dimension and the metric. -/
def sharedColumnRequest : Request :=
  ⟨1, "select city, amount from t", []⟩

def sharedColumnAnswer : Compiled where
  sql := "SELECT c, c FROM (SELECT c, SUM(c) AS c FROM dw.t GROUP BY c) AS t LIMIT 1000"
  logicalTable := some ⟨"t", ["amount"], ["city"]⟩
  hasAggregation := false
  warnings := []

theorem convert_sharedColumn :
    Compiler.standard.convert none [sharedColumnSchema] sharedColumnRequest
      = .ok sharedColumnAnswer := by
  decide +kernel

theorem output_names_distinct_iff_sharedColumn :
    ∃ k : Compilation .standard none [sharedColumnSchema] sharedColumnRequest sharedColumnAnswer,
      Physical.attachSource k.table.name k.source.render k.renamed = .ok k.physical
        ∧ (((k.source.columns.map SourceColumn.output).Pairwise fun a b => sameName a b = false)
          ↔ ∀ a b, k.Reads a → k.Reads b → a ≠ b → sameName a.output b.output = false) :=
  output_names_distinct_iff convert_sharedColumn (by decide)

/-- A dimension and a metric over one column leave the derived table with two columns `c`. -/
theorem output_names_not_distinct :
    Compiler.standard.convert none [sharedColumnSchema] sharedColumnRequest
        = .ok sharedColumnAnswer
      ∧ ∀ k : Compilation .standard none [sharedColumnSchema] sharedColumnRequest
          sharedColumnAnswer,
        k.source.columns.map SourceColumn.output = ["c", "c"] := by
  refine ⟨convert_sharedColumn, fun k => ?_⟩
  have hschema : k.schema = sharedColumnSchema := (Option.some.inj k.chosen).symm
  have htable : k.table = ⟨"t", ["amount"], ["city"]⟩ := (Option.some.inj k.answered).symm
  -- the metric in the table is not called like the one that would be made up
  have hmade : k.made = none := by
    obtain ⟨hnone, -⟩ | ⟨m, hsome, hmetrics, -⟩ := k.table_metrics
    · exact hnone
    · rw [k.eq_defaultMetric_of_made hsome, htable, hschema] at hmetrics
      have hname : ["amount"] = ["t_internal_cnt"] := hmetrics
      exact absurd hname (by decide)
  rw [k.source_outputs, Compilation.dimensionSources, Compilation.metricSources, hschema, htable,
    hmade]
  decide

end MetricQuery
