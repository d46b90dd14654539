import MetricQuery.Proofs.Compiler.DeclaredColumns
import MetricQuery.Proofs.Compiler.PlannerWarnings
import MetricQuery.Proofs.Compiler.TableReferences
import MetricQuery.Proofs.Planning.ForeignReferences

/-!
# Columns of `USING` lists — names that no one looks at

A join may be written with a list of columns that both tables have. These are names of a clause and
no expressions. The fields of a request are collected from expressions, and expressions are renamed,
so a name of such a list is neither classified nor renamed, and nothing is said about it. It comes
out right only if it is the technical name already and something else refers to the element.
-/

namespace MetricQuery

open MetricQuery.Sql MetricQuery.Correction MetricQuery.Text

/-! ## Lists of columns -/

namespace Sql

/-- The form with another list of columns, if it is that of a `USING` clause. -/
def Form.mapUsing (f : List Ident → List Ident) : Form → Form
  | .clause (.using columns) => .clause (.using (f columns))
  | form => form

/-- The tree with other columns in all its `USING` lists. -/
def SyntaxTree.mapUsing (f : List Ident → List Ident) (t : SyntaxTree) : SyntaxTree :=
  t.mapNodes fun n => .node (n.form.mapUsing f) n.parts

/-- The query with other columns in all its `USING` lists. -/
def Query.mapUsing (f : List Ident → List Ident) (q : Query) : Query :=
  q.mapNodes fun n => .node (n.form.mapUsing f) n.parts

/-- The columns of the `USING` list at a path. -/
def Query.usingAt? (q : Query) (path : List Nat) : Option (List Ident) :=
  match q.formAt? path with
  | some (.clause (.using columns)) => some columns
  | _ => none

variable {f : List Ident → List Ident}

theorem SyntaxTree.mapUsing_node (f : List Ident → List Ident) (form : Form)
    (parts : List SyntaxTree) :
    (node form parts).mapUsing f = .node (form.mapUsing f) (parts.map (mapUsing f)) :=
  mapNodes_node _ _ _

/-- A `USING` list is no column. -/
theorem SyntaxTree.columnName?_mapUsing (t : SyntaxTree) :
    (t.mapUsing f).columnName? = t.columnName? := by
  obtain ⟨form, parts⟩ := t
  rw [mapUsing_node]
  cases form with
  | clause form => cases form <;> rfl
  | expr form => cases form <;> rfl

theorem SyntaxTree.names_mapUsing (t : SyntaxTree) : (t.mapUsing f).names = t.names := by
  have hcolumns : (t.mapUsing f).nodes.filterMap columnName? = t.nodes.filterMap columnName? := by
    induction t using SyntaxTree.induction with
    | node form parts ih =>
      have hhead := columnName?_mapUsing (f := f) (node form parts)
      rw [mapUsing_node] at hhead ⊢
      have hparts : ((parts.map (mapUsing f)).flatMap nodes).filterMap columnName?
          = (parts.flatMap nodes).filterMap columnName? := by
        rw [List.flatMap_map, List.filterMap_flatMap, List.filterMap_flatMap]
        exact List.flatMap_congr ih
      rw [nodes_node, nodes_node, List.filterMap_cons, List.filterMap_cons, hhead, hparts]
  rw [names, names, hcolumns]

/-- What stands in `USING` lists is no field. -/
theorem Query.fields_mapUsing (q : Query) : (q.mapUsing f).fields = q.fields := by
  rw [fields_eq_distinctNames, fields_eq_distinctNames]
  exact congrArg _ q.toTree.names_mapUsing

/-- Renaming columns leaves lists of columns as they are. -/
theorem Form.mapColumn_eq_using_iff {g : String → String} {form : Form} {columns : List Ident} :
    form.mapColumn g = .clause (.using columns) ↔ form = .clause (.using columns) := by
  cases form with
  | clause form => rfl
  | expr form => cases form <;> exact ⟨nofun, nofun⟩

theorem Query.usingAt?_eq_some {q : Query} {path : List Nat} {columns : List Ident} :
    q.usingAt? path = some columns ↔ q.formAt? path = some (.clause (.using columns)) := by
  unfold usingAt?
  split
  · next heq => rw [heq]; simp
  · next hno => exact ⟨nofun, fun h => absurd h (hno _)⟩

end Sql

namespace Compilation

variable {c : Compiler} {databaseType : Option String} {schemas : List Schema} {r : Request}
  {out : Compiled} (k : Compilation c databaseType schemas r out) {path : List Nat}
  {d : Schema.Declared} {name : String}

/-- Whether the name of an element is in the list of its kind. -/
def Classifies (d : Schema.Declared) : Prop :=
  match d.kind with
  | .metric => lower d.element.name ∈ k.table.metrics
  | .dimension => lower d.element.name ∈ k.table.dimensions

/-- Whether the planner says something about a name. -/
def WarnsOf (name : String) : Prop :=
  ∃ w ∈ out.warnings, w ∈ Physical.fieldWarnings k.scope name

/-- The name of a column of the `USING` list at a path of the answer. -/
def shownUsing? (path : List Nat) (i : Nat) : Option String :=
  (k.physical.usingAt? path).bind fun columns => columns[i]?.map Ident.name

/-- Whether a name of a `USING` list is treated as a reference to the element that is found under it:
the element is listed, the derived table has its column, and the answer has its technical name in
the place of the name; or else there is a warning about the name. -/
def TreatsUsing (path : List Nat) (i : Nat) (name : String) (d : Schema.Declared) : Prop :=
  (k.Classifies d ∧ k.source.Provides d ∧ k.shownUsing? path i = some d.element.technicalName)
    ∨ k.WarnsOf name

/-- `USING` lists stay. -/
theorem usingAt?_physical (hout : ∀ p, k.Replaces p → ¬ p <+: path) :
    k.physical.usingAt? path = k.corrected.usingAt? path := by
  have hform := Physical.formAt?_of_ofQuery k.ofQuery_eq hout
  apply Option.ext
  intro columns
  rw [Query.usingAt?_eq_some, Query.usingAt?_eq_some, hform, Option.map_eq_some_iff]
  simp only [Form.mapColumn_eq_using_iff, exists_eq_right]

/-- A table is the first part of its join, and what constrains the join comes behind it. -/
theorem not_replaces_constraint {p rest : List Nat} {i j n : Nat} (h : k.Replaces p) :
    ¬ p <+: 1 :: 3 :: i :: (j + 1) :: (n + 1) :: rest := by
  obtain ⟨table, ⟨hselect, hfrom, htree, hplace⟩, -⟩ := h
  cases hplace with
  | first => simp [List.cons_prefix_cons]
  | joined hjoin => simp [List.cons_prefix_cons]

/-- There is a warning about the name of an element if it is a field and ambiguous. -/
theorem warnsOf_iff (h : c.compileTable databaseType k.schema k.tableName r = .ok out)
    (hstages : Physical.stageName ∉ c.pipeline.stageNames) (hfind : k.schema.find? name = some d) :
    k.WarnsOf name ↔ name ∈ k.corrected.fields ∧ (k.scope.resolve name).ambiguous = true := by
  constructor
  · rintro ⟨w, hw, habout⟩
    have hstage := Physical.stage_of_mem_fieldWarnings habout
    have hplanner := (k.mem_warnings_iff h hstages hstage).1 hw
    refine ⟨(k.mem_plannerWarnings_iff habout).1 hplanner, ?_⟩
    rcases Physical.mem_fieldWarnings.1 habout with ⟨hambiguous, -⟩ | ⟨hunknown, -⟩
    · exact hambiguous
    · -- what stands for an element is not unknown
      rw [Resolution.isUnknown, Scope.resolve_target_of_find? hfind, Scope.targetOf] at hunknown
      split at hunknown <;> simp at hunknown
  · rintro ⟨hfield, hambiguous⟩
    have habout : ⟨Physical.stageName, "ambiguous identifier `" ++ name
        ++ "` resolved by business name"⟩ ∈ Physical.fieldWarnings k.scope name :=
      Physical.mem_fieldWarnings.2 (.inl ⟨hambiguous, rfl⟩)
    have hplanner := (k.mem_plannerWarnings_iff habout).2 hfield
    exact ⟨_, (k.mem_warnings_iff h hstages rfl).2 hplanner, habout⟩

theorem treatsUsing_iff (h : c.compileTable databaseType k.schema k.tableName r = .ok out)
    (hstages : Physical.stageName ∉ c.pipeline.stageNames)
    (hout : ∀ p, k.Replaces p → ¬ p <+: path) {columns : List Ident} {i : Nat} {column : Ident}
    (husing : k.corrected.usingAt? path = some columns) (hcolumn : columns[i]? = some column)
    (hfind : k.schema.find? column.name = some d) :
    k.TreatsUsing path i column.name d
      ↔ (column.name = d.element.technicalName ∧ k.Classifies d ∧ k.source.Provides d)
        ∨ column.name ∈ k.corrected.fields ∧ (k.scope.resolve column.name).ambiguous = true := by
  have hshown : k.shownUsing? path i = some column.name := by
    rw [shownUsing?, k.usingAt?_physical hout, husing, Option.bind_some, hcolumn]
    rfl
  rw [TreatsUsing, k.warnsOf_iff h hstages hfind, hshown, Option.some.injEq]
  tauto

end Compilation

/-- What becomes of the `USING` lists of a request that is answered with a query. Outside the derived
tables they stay, and they add nothing to the fields of the request. So a name that is listed, and
under which an element is found, is treated as a reference to it exactly if it is its technical name
and the element is listed and provided anyway, or if the name is ambiguous and a field besides. -/
theorem using_columns_of_convert {c : Compiler} {databaseType : Option String}
    {schemas : List Schema} {r : Request} {out : Compiled}
    (hstages : Physical.stageName ∉ c.pipeline.stageNames)
    (h : c.convert databaseType schemas r = .ok out) (hnonempty : out.isEmpty = false) :
    ∃ k : Compilation c databaseType schemas r out,
      (∀ path, (∀ p, k.Replaces p → ¬ p <+: path) →
        k.physical.usingAt? path = k.corrected.usingAt? path)
      ∧ (∀ f, (k.corrected.mapUsing f).fields = k.corrected.fields)
      ∧ ∀ path columns i column d, (∀ p, k.Replaces p → ¬ p <+: path) →
        k.corrected.usingAt? path = some columns → columns[i]? = some column →
        k.schema.find? column.name = some d →
        (k.TreatsUsing path i column.name d
          ↔ (column.name = d.element.technicalName ∧ k.Classifies d ∧ k.source.Provides d)
            ∨ column.name ∈ k.corrected.fields
              ∧ (k.scope.resolve column.name).ambiguous = true) := by
  obtain ⟨k, q, hread, hname⟩ := Compiler.exists_compilation_of_convert h hnonempty
  have hcompiled := k.compileTable_eq h hread hname
  refine ⟨k, fun path => k.usingAt?_physical, fun f => k.corrected.fields_mapUsing, ?_⟩
  intro path columns i column d hout husing hcolumn hfind
  exact k.treatsUsing_iff hcompiled hstages hout husing hcolumn hfind

/-- A model with a dimension and a metric. -/
def salesSchema : Schema :=
  ((Schema.ofNames 1 "t" "t" "dw.t").withDimension (.named "city" "city_name")).withMetric
    (.named "amount" "amt")

/-- A request that joins the logical table over its dimension. -/
def usingRequest : Request :=
  ⟨1, "select amount from t join u using (city)", []⟩

def usingAnswer : Compiled where
  sql := "SELECT amt FROM (SELECT SUM(amt) AS amt FROM dw.t) AS t JOIN u USING(city) LIMIT 1000"
  logicalTable := some ⟨"t", ["amount"], []⟩
  hasAggregation := false
  warnings := []

theorem convert_using :
    Compiler.standard.convert none [salesSchema] usingRequest = .ok usingAnswer := by
  decide +kernel

theorem using_columns_of_convert_sales :
    ∃ k : Compilation .standard none [salesSchema] usingRequest usingAnswer,
      (∀ path, (∀ p, k.Replaces p → ¬ p <+: path) →
        k.physical.usingAt? path = k.corrected.usingAt? path)
      ∧ (∀ f, (k.corrected.mapUsing f).fields = k.corrected.fields)
      ∧ ∀ path columns i column d, (∀ p, k.Replaces p → ¬ p <+: path) →
        k.corrected.usingAt? path = some columns → columns[i]? = some column →
        k.schema.find? column.name = some d →
        (k.TreatsUsing path i column.name d
          ↔ (column.name = d.element.technicalName ∧ k.Classifies d ∧ k.source.Provides d)
            ∨ column.name ∈ k.corrected.fields
              ∧ (k.scope.resolve column.name).ambiguous = true) :=
  using_columns_of_convert (Pipeline.stageName_not_mem_configured _ _) convert_using (by decide)

/-- The join lists the dimension, and the answer neither has it in the derived table nor knows its
technical name; and it has no warning. The path leads to the `FROM` clause of the body, to its first
table, and to the constraint of the join there. -/
theorem using_column_not_treated :
    Compiler.standard.convert none [salesSchema] usingRequest = .ok usingAnswer
      ∧ ∀ k : Compilation .standard none [salesSchema] usingRequest usingAnswer,
        (∀ p, k.Replaces p → ¬ p <+: [1, 3, 0, 1, 1])
        ∧ k.corrected.usingAt? [1, 3, 0, 1, 1] = some [.plain "city"]
        ∧ k.schema.find? "city" = some ⟨.dimension, 0, .named "city" "city_name"⟩
        ∧ ¬ k.TreatsUsing [1, 3, 0, 1, 1] 0 "city" ⟨.dimension, 0, .named "city" "city_name"⟩ := by
  refine ⟨convert_using, fun k => ⟨?_, ?_, ?_, ?_⟩⟩
  · exact fun p => k.not_replaces_constraint
  · have hread : (Query.parse (Compiler.standard.requestText none usingRequest)).toOption.map
        (Query.usingAt? · [1, 3, 0, 1, 1]) = some (some [.plain "city"]) := by
      decide +kernel
    rw [k.read] at hread
    exact Option.some.inj hread
  · have hschema : k.schema = salesSchema := (Option.some.inj k.chosen).symm
    rw [hschema]
    decide
  · have htable : k.table = ⟨"t", ["amount"], []⟩ := (Option.some.inj k.answered).symm
    rintro (⟨hlisted, -⟩ | ⟨w, hw, -⟩)
    · have hmem : lower "city" ∈ k.table.dimensions := hlisted
      rw [htable] at hmem
      cases hmem
    · cases hw

end MetricQuery
