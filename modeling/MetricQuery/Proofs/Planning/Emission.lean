import MetricQuery.Planning.Physical
import MetricQuery.Proofs.Semantics.Resolution
import MetricQuery.Proofs.Sql.Renaming

/-!
# Emission — the names under which columns are written

The planner renames the columns of a request by a table of the fields that the request has. For the
columns of the request itself the table says no more than what each name stands for: every reference
to a declared element is written under its technical name, every other column stays as it is.
-/

namespace MetricQuery

open MetricQuery.Sql MetricQuery.Text

/-! ## What a name is written as -/

/-- The name under which a reference is written: the technical name of the element that it stands
for, or else the name itself. -/
def Scope.emittedName (scope : Scope) (name : String) : String :=
  ((scope.resolve name).target.element?.map Element.technicalName).getD name

theorem Scope.emittedName_eq (scope : Scope) (name : String) : scope.emittedName name
    = ((scope.schema.find? name).map (·.element.technicalName)).getD name := by
  rw [emittedName, element?_resolve, Option.map_map]
  rfl

/-- A name is written as it is exactly if it is the technical name of what is found under it. -/
theorem Scope.emittedName_eq_self_iff {scope : Scope} {name : String} :
    scope.emittedName name = name
      ↔ ∀ d, scope.schema.find? name = some d → d.element.technicalName = name := by
  rw [emittedName_eq]
  cases scope.schema.find? name <;> simp

/-- The column under the name that it is written as; any other node as it is. -/
def Scope.emitColumn (scope : Scope) : SyntaxTree → SyntaxTree
  | .node (.expr (.column qualifier name)) parts =>
    .expr (.column qualifier { name with name := scope.emittedName name.name }) parts
  | t => t

theorem Scope.emitColumn_eq_mapColumn (scope : Scope) :
    scope.emitColumn = SyntaxTree.mapColumn scope.emittedName := by
  funext t
  obtain ⟨form, parts⟩ := t
  cases form with
  | clause form => rfl
  | expr form => cases form <;> rfl

/-- Writing columns under other names respells them. -/
theorem Scope.respells_emitColumn (scope : Scope) (t : SyntaxTree) :
    t.Respells (fun a b => b = scope.emittedName a) (t.mapNodes scope.emitColumn) := by
  rw [emitColumn_eq_mapColumn]
  exact t.respells_mapColumns scope.emittedName

theorem Scope.query_respells_emitColumn (scope : Scope) (q : Query) :
    q.Respells (fun a b => b = scope.emittedName a) (q.mapNodes scope.emitColumn) :=
  scope.respells_emitColumn q.toTree

/-- Respelled columns that are written under the same names make the same tree. -/
theorem Scope.mapNodes_emitColumn_of_respells {scope : Scope} {P : String → String → Prop}
    (hP : ∀ a b, P a b → scope.emittedName b = scope.emittedName a) {t t' : SyntaxTree}
    (h : t.Respells P t') : t'.mapNodes scope.emitColumn = t.mapNodes scope.emitColumn := by
  rw [emitColumn_eq_mapColumn]
  exact SyntaxTree.mapColumns_of_respells hP h

theorem Scope.query_mapNodes_emitColumn_of_respells {scope : Scope} {P : String → String → Prop}
    (hP : ∀ a b, P a b → scope.emittedName b = scope.emittedName a) {q q' : Query}
    (h : q.Respells P q') : q'.mapNodes scope.emitColumn = q.mapNodes scope.emitColumn := by
  have hclause : ∀ p p' : SyntaxTree, p.Respells P p' →
      p'.mapNodes scope.emitColumn = p.mapNodes scope.emitColumn := fun _ _ =>
    mapNodes_emitColumn_of_respells hP
  have hrelated := h.related
  simp only [Query.mapNodes, hclause _ _ hrelated.commonTables, hclause _ _ hrelated.body,
    hclause _ _ hrelated.orderBy, hclause _ _ hrelated.limit, hclause _ _ hrelated.limitBy,
    hclause _ _ hrelated.offset, hclause _ _ hrelated.fetch, hrelated.options]

namespace Physical

variable {scope : Scope} {fields : List String} {a b name : String}

theorem technicalName?_eq (scope : Scope) (name : String) :
    technicalName? scope name
      = (scope.resolve name).target.element?.map Element.technicalName := by
  unfold technicalName?
  cases (scope.resolve name).target <;> rfl

theorem technicalName?_congr (scope : Scope) (h : sameName a b = true) :
    technicalName? scope a = technicalName? scope b := by
  rw [sameName, beq_iff_eq] at h
  rw [technicalName?_eq, technicalName?_eq, Scope.element?_resolve, Scope.element?_resolve,
    Schema.find?_congr _ h]

/-- The table of fields answers for every name that is one of them in some letter case. -/
theorem get?_fieldNames (scope : Scope) (h : ∃ field ∈ fields, sameName field name = true) :
    (fieldNames scope fields).get? name = technicalName? scope name := by
  rw [fieldNames, FieldNames.get?_ofList]
  cases hfind : (fields.filterMap fun field =>
      (technicalName? scope field).map (field, ·)).reverse.find? (fun e => sameName e.1 name) with
  | some e =>
    -- the entry belongs to a field of the same name, which stands for the same thing
    have hsame : sameName e.1 name = true := by simpa using List.find?_some hfind
    have hmem := List.mem_reverse.1 (List.mem_of_find?_eq_some hfind)
    obtain ⟨field, -, he⟩ := List.mem_filterMap.1 hmem
    obtain ⟨target, htarget, rfl⟩ := Option.map_eq_some_iff.1 he
    rw [← technicalName?_congr scope hsame, htarget]
    rfl
  | none =>
    -- a field without an entry stands for nothing declared
    obtain ⟨field, hfield, hsame⟩ := h
    rw [← technicalName?_congr scope hsame]
    cases htarget : technicalName? scope field with
    | none => rfl
    | some target =>
      have hmem : (field, target) ∈ (fields.filterMap fun field =>
          (technicalName? scope field).map (field, ·)).reverse := by
        rw [List.mem_reverse, List.mem_filterMap]
        exact ⟨field, hfield, by rw [htarget]; rfl⟩
      have hno := List.find?_eq_none.1 hfind _ hmem
      exact absurd hsame hno

theorem exists_field_of_column {q : Query} {t : SyntaxTree} {name : Ident}
    (ht : t ∈ q.toTree.nodes) (hname : t.columnName? = some name) :
    ∃ field ∈ q.fields, sameName field name.name = true := by
  have hmem : name ∈ q.toTree.nodes.filterMap SyntaxTree.columnName? :=
    List.mem_filterMap.2 ⟨t, ht, hname⟩
  obtain ⟨first, hfirst, hsame⟩ :
      ∃ first ∈ q.toTree.columnNames, sameName first.name name.name = true :=
    exists_mem_distinctBy hmem
  exact ⟨first.name, List.mem_map_of_mem hfirst, hsame⟩

/-- The planner writes each column of a query under the name of what it stands for. -/
theorem renameColumns_fieldNames (scope : Scope) (q : Query) :
    q.renameColumns (fieldNames scope q.fields) = q.mapNodes scope.emitColumn := by
  refine Query.mapNodes_congr fun t ht parts => ?_
  obtain ⟨form, own⟩ := t
  cases form with
  | clause form => rfl
  | expr form =>
    cases form with
    | column qualifier name =>
      have hget := get?_fieldNames scope (exists_field_of_column ht rfl)
      simp only [SyntaxTree.form, SyntaxTree.renameColumn, Scope.emitColumn, FieldNames.apply,
        Scope.emittedName, hget, technicalName?_eq]
    | _ => rfl

/-- Renaming its columns respells a query. -/
theorem respells_renameColumns (scope : Scope) (q : Query) :
    q.Respells (fun a b => b = scope.emittedName a)
      (q.renameColumns (fieldNames scope q.fields)) := by
  rw [renameColumns_fieldNames]
  exact scope.query_respells_emitColumn q

end Physical

end MetricQuery
