import MetricQuery.Proofs.Compiler.DerivedTable
import MetricQuery.Proofs.Planning.Emission

/-!
# Declared columns — whether a reference meets the column of its element

A reference to a declared element is written under the technical name of that element. The derived
table is built from the names of the elements, each of which is looked up once more on the way, and
a name that is listed as a dimension is taken for a reserved column first. So the derived table has
the column of the element exactly if the element is what its own name leads back to, or if another
source happens to have the very same column.
-/

namespace MetricQuery

open MetricQuery.Text MetricQuery.Sql

/-- Whether the name of an element leads back to it: no element of the same name is found before
it, and a dimension is not called like a reserved column. -/
def Schema.OwnsName (s : Schema) (d : Schema.Declared) : Prop :=
  s.findByName? d.element.name = some d
    ∧ (d.kind = .dimension → internalColumn? (lower d.element.name) = none)

/-- Whether a derived table has the column of an element: a dimension as it is stored, by which the
rows are grouped, and a metric summed up, both under the technical name. -/
def SourceQuery.Provides (q : SourceQuery) (d : Schema.Declared) : Prop :=
  match d.kind with
  | .dimension =>
    ⟨d.element.physicalExpr, d.element.technicalName⟩ ∈ q.dimensions
      ∧ d.element.physicalExpr ∈ q.grouping
  | .metric => ⟨d.element.summedExpr, d.element.technicalName⟩ ∈ q.metrics

/-- The column of a source among those of a kind. -/
def ColumnSource.column (s : Schema) : ElementKind → ColumnSource → SourceColumn
  | .dimension => grouped s
  | .metric => summed s

namespace Schema

variable {s : Schema} {name : String} {d d' : Declared}

theorem kind_of_mem_metrics (h : d ∈ s.metrics.mapIdx (⟨.metric, ·, ·⟩)) : d.kind = .metric := by
  obtain ⟨i, hi, rfl⟩ := List.mem_mapIdx.1 h
  rfl

theorem kind_of_mem_dimensions (h : d ∈ s.dimensions.mapIdx (⟨.dimension, ·, ·⟩)) :
    d.kind = .dimension := by
  obtain ⟨i, hi, rfl⟩ := List.mem_mapIdx.1 h
  rfl

/-- A metric is found before every dimension of its name. -/
theorem kind_of_findByName? (hd : d ∈ s.elements) (hkind : d.kind = .metric)
    (hname : lower d.element.name = lower name) (hfind : s.findByName? name = some d') :
    d'.kind = .metric := by
  have hmem : d ∈ s.metrics.mapIdx (⟨.metric, ·, ·⟩) := by
    refine (List.mem_append.1 hd).resolve_right fun hdim => ?_
    rw [kind_of_mem_dimensions hdim] at hkind
    cases hkind
  unfold findByName? elements at hfind
  rw [List.find?_append, Option.or_eq_some_iff] at hfind
  rcases hfind with hfind | ⟨hnone, -⟩
  · exact kind_of_mem_metrics (List.mem_of_find?_eq_some hfind)
  · have hno := List.find?_eq_none.1 hnone d hmem
    simp [sameName, hname] at hno

end Schema

theorem Scope.emittedName_of_find? {scope : Scope} {name : String} {d : Schema.Declared}
    (h : scope.schema.find? name = some d) :
    scope.emittedName name = d.element.technicalName := by
  rw [emittedName, element?_resolve, h]
  rfl

namespace Compilation

variable {c : Compiler} {databaseType : Option String} {schemas : List Schema} {r : Request}
  {out : Compiled} (k : Compilation c databaseType schemas r out)
  {field : String} {d : Schema.Declared}

/-- Whether the derived table has a column for a source among those of a kind. -/
def Lists : ElementKind → ColumnSource → Prop
  | .dimension => k.GroupsBy
  | .metric => k.SumsUp

theorem refers_of_find? (hfield : field ∈ k.fields) (hfind : k.schema.find? field = some d) :
    k.Refers d.kind (lower d.element.name) :=
  ⟨field, hfield, d, hfind, rfl, rfl⟩

/-- An element that is referred to has a column of its own exactly if it owns its name. -/
theorem lists_element_iff (hfield : field ∈ k.fields) (hfind : k.schema.find? field = some d) :
    k.Lists d.kind (.element d) ↔ k.schema.OwnsName d := by
  have href := k.refers_of_find? hfield hfind
  cases hkind : d.kind with
  | metric =>
    rw [hkind] at href
    refine ⟨fun h => ⟨h.1, fun hdim => ?_⟩, fun h => ⟨h.1, href⟩⟩
    rw [hkind] at hdim
    cases hdim
  | dimension =>
    rw [hkind] at href
    refine ⟨fun h => ⟨h.1, fun _ => h.2.1⟩, fun h => ⟨h.1, h.2 hkind, href, ?_⟩⟩
    -- a metric of the name would have been found in place of the dimension
    rintro ⟨field', -, d', hfind', hkind', hname⟩
    have := Schema.kind_of_findByName? (Schema.mem_elements_of_find? hfind') hkind' hname h.1
    rw [hkind] at this
    cases this

/-- There is always a metric, so the rows are always grouped by the dimensions. -/
theorem grouping_source : k.source.grouping = k.source.dimensions.map SourceColumn.expr := by
  -- a request without a metric has one made up for it, so that there is always one to sum up
  have hsome : k.metricSources ≠ [] := by
    obtain ⟨-, -, hne⟩ | ⟨m, hmade, -⟩ := k.table_metrics
    · obtain ⟨name, hname⟩ := List.exists_mem_of_ne_nil _ hne
      have href : k.Refers .metric name := Classification.mem_metrics.1 hname
      obtain ⟨d, hfind, hkey⟩ := href.exists_findByName?
      have hsums : k.SumsUp (.element d) := by
        refine ⟨?_, by rw [hkey]; exact href⟩
        rw [k.schema.findByName?_congr (b := name) (by rw [hkey, href.lower_eq]), hfind]
      exact List.ne_nil_of_mem (k.mem_metricSources.2 hsums)
    · have hsums : k.SumsUp (.made m) := hmade
      exact List.ne_nil_of_mem (k.mem_metricSources.2 hsums)
  have hmetrics : k.source.metrics.isEmpty = false := by
    rw [List.isEmpty_eq_false_iff, source_metrics]
    exact fun hnil => hsome (List.map_eq_nil_iff.1 hnil)
  rw [SourceQuery.grouping, hmetrics]
  rfl

/-- The derived table has the column of an element exactly if it lists a source with that column. -/
theorem provides_iff_exists : k.source.Provides d ↔ ∃ src, k.Lists d.kind src
    ∧ src.column k.schema d.kind = (ColumnSource.element d).column k.schema d.kind := by
  unfold SourceQuery.Provides
  cases d.kind with
  | metric =>
    dsimp only
    rw [source_metrics, List.mem_map]
    simp only [mem_metricSources]
    exact Iff.rfl
  | dimension =>
    dsimp only
    rw [grouping_source, source_dimensions, List.mem_map]
    simp only [mem_dimensionSources]
    -- what a dimension reads is also grouped by
    refine ⟨fun h => h.1, fun h => ⟨h, ?_⟩⟩
    obtain ⟨src, hsrc, hcolumn⟩ := h
    rw [List.map_map, List.mem_map]
    exact ⟨src, k.mem_dimensionSources.2 hsrc, congrArg SourceColumn.expr hcolumn⟩

/-- The derived table has the column of an element that is referred to exactly if the element owns
its name, or if another source has the same column. -/
theorem provides_iff (hfield : field ∈ k.fields) (hfind : k.schema.find? field = some d) :
    k.source.Provides d ↔ k.schema.OwnsName d
      ∨ ∃ other, other ≠ .element d ∧ k.Lists d.kind other
        ∧ other.column k.schema d.kind = (ColumnSource.element d).column k.schema d.kind := by
  rw [provides_iff_exists, ← k.lists_element_iff hfield hfind]
  constructor
  · rintro ⟨src, hlists, hcolumn⟩
    by_cases hsrc : src = .element d
    · exact .inl (hsrc ▸ hlists)
    · exact .inr ⟨src, hsrc, hlists, hcolumn⟩
  · rintro (hlists | ⟨other, -, hlists, hcolumn⟩)
    · exact ⟨_, hlists, rfl⟩
    · exact ⟨other, hlists, hcolumn⟩

end Compilation

/-- How the references to declared elements come out of a compilation. Each column of the corrected
query that stands for an element is written under its technical name; and the derived table, which
takes the place of the logical table, has the column of that element exactly if the element owns its
name or another source has the same column. -/
theorem declared_references_of_convert {c : Compiler} {databaseType : Option String}
    {schemas : List Schema} {r : Request} {out : Compiled}
    (h : c.convert databaseType schemas r = .ok out) (hnonempty : out.isEmpty = false) :
    ∃ k : Compilation c databaseType schemas r out,
      k.renamed = k.corrected.mapNodes k.scope.emitColumn
        ∧ Physical.attachSource k.table.name k.source.render k.renamed = .ok k.physical
        ∧ ∀ t ∈ k.corrected.toTree.nodes, ∀ name, t.columnName? = some name →
          ∀ d, k.schema.find? name.name = some d →
            (k.scope.resolve name.name).target = Scope.targetOf d
              ∧ k.scope.emittedName name.name = d.element.technicalName
              ∧ (k.source.Provides d ↔ k.schema.OwnsName d
                ∨ ∃ other, other ≠ .element d ∧ k.Lists d.kind other
                  ∧ other.column k.schema d.kind
                    = (ColumnSource.element d).column k.schema d.kind) := by
  obtain ⟨k⟩ := Compiler.compilation_of_convert h hnonempty
  refine ⟨k, Physical.renameColumns_fieldNames _ _, k.attached, fun t ht name hname d hfind => ?_⟩
  refine ⟨Scope.resolve_target_of_find? hfind, Scope.emittedName_of_find? hfind, ?_⟩
  obtain ⟨field, hfield, hsame⟩ := Physical.exists_field_of_column ht hname
  rw [sameName, beq_iff_eq] at hsame
  exact k.provides_iff (List.mem_append_left _ hfield)
    ((k.schema.find?_congr hsame).trans hfind)

/-- A model with two dimensions of one name. -/
def namesakeSchema : Schema :=
  ((Schema.ofNames 1 "t" "t" "dw.t").withDimension (.named "x" "a")).withDimension (.named "x" "b")

/-- A request for the second one, which only its technical name can tell from the first. -/
def namesakeRequest : Request :=
  ⟨1, "select b from t", []⟩

def namesakeAnswer : Compiled where
  sql := "SELECT b FROM (SELECT a, COUNT(1) AS t_internal_cnt FROM dw.t GROUP BY a) AS t LIMIT 1000"
  logicalTable := some ⟨"t", ["t_internal_cnt"], ["x"]⟩
  hasAggregation := false
  warnings := []

theorem convert_namesake :
    Compiler.standard.convert none [namesakeSchema] namesakeRequest = .ok namesakeAnswer := by
  decide +kernel

theorem declared_references_of_convert_namesake :
    ∃ k : Compilation .standard none [namesakeSchema] namesakeRequest namesakeAnswer,
      k.renamed = k.corrected.mapNodes k.scope.emitColumn
        ∧ Physical.attachSource k.table.name k.source.render k.renamed = .ok k.physical
        ∧ ∀ t ∈ k.corrected.toTree.nodes, ∀ name, t.columnName? = some name →
          ∀ d, k.schema.find? name.name = some d →
            (k.scope.resolve name.name).target = Scope.targetOf d
              ∧ k.scope.emittedName name.name = d.element.technicalName
              ∧ (k.source.Provides d ↔ k.schema.OwnsName d
                ∨ ∃ other, other ≠ .element d ∧ k.Lists d.kind other
                  ∧ other.column k.schema d.kind
                    = (ColumnSource.element d).column k.schema d.kind) :=
  declared_references_of_convert convert_namesake (by decide)

/-- Of two dimensions of one name the derived table has the first, whichever is asked for. -/
theorem namesake_not_provided :
    Compiler.standard.convert none [namesakeSchema] namesakeRequest = .ok namesakeAnswer
      ∧ ∀ k : Compilation .standard none [namesakeSchema] namesakeRequest namesakeAnswer,
        k.schema.find? "b" = some ⟨.dimension, 1, .named "x" "b"⟩
          ∧ ¬ k.source.Provides ⟨.dimension, 1, .named "x" "b"⟩ := by
  refine ⟨convert_namesake, fun k => ?_⟩
  have hschema : k.schema = namesakeSchema := (Option.some.inj k.chosen).symm
  have htable : k.table = ⟨"t", ["t_internal_cnt"], ["x"]⟩ := (Option.some.inj k.answered).symm
  refine ⟨by rw [hschema]; decide, fun hprovides => ?_⟩
  have hmem : (⟨"b", "b"⟩ : SourceColumn) ∈ k.source.dimensions := hprovides.1
  rw [k.source_dimensions, Compilation.dimensionSources, hschema, htable] at hmem
  revert hmem
  decide

end MetricQuery
