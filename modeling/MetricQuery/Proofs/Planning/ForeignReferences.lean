import MetricQuery.Proofs.Planning.Emission
import MetricQuery.Proofs.Planning.Replacement

/-!
# Foreign references — columns of tables that the model says nothing about

A request may join the logical table with tables of other models or of none. The planner goes by the
last part of a column's name alone, wherever the column stands. So a column of another table keeps
its place and its qualifiers, but where a declared element is found under its name it is written
under the technical name of that element.
-/

namespace MetricQuery

open MetricQuery.Sql

namespace Sql

/-- The form of the node at a path. -/
def Query.formAt? (q : Query) (path : List Nat) : Option Form :=
  (q.toTree.at? path).map SyntaxTree.form

/-- The form of a column. -/
def Form.column (qualifier : List Ident) (name : Ident) : Form :=
  .expr (.column qualifier name)

end Sql

namespace Physical

variable {s : Schema} {made : Option SynthesizedMetric} {t : LogicalTable} {q physical : Query}
  {warnings : List Warning} {path : List Nat}

/-- Outside the tables that give way, the planner changes the names of columns only. -/
theorem formAt?_of_ofQuery (h : ofQuery s made t q = .ok (physical, warnings))
    (hout : ∀ cut, Replaces t.name q cut → ¬ cut <+: path) :
    physical.formAt? path
      = (q.formAt? path).map (Form.mapColumn (scopeOf s made q).emittedName) := by
  have hattached := attachSource_of_ofQuery h
  rw [renameColumns_fieldNames] at hattached
  -- the tables that give way bear their name with and without the new names of columns
  have hreplaces : ∀ cut, Replaces t.name (q.mapNodes (scopeOf s made q).emitColumn) cut →
      ¬ cut <+: path := fun cut hcut =>
    hout cut (replaces_of_respells ((scopeOf s made q).query_respells_emitColumn q).flip hcut)
  have hrenamed : (q.mapNodes (scopeOf s made q).emitColumn).toTree
      = q.toTree.mapColumns (scopeOf s made q).emittedName := by
    rw [Scope.emitColumn_eq_mapColumn]
    rfl
  calc physical.formAt? path
      = ((q.mapNodes (scopeOf s made q).emitColumn).toTree.at? path).map SyntaxTree.form :=
        sameOutside_attachSource hattached path hreplaces
    _ = (q.toTree.at? path).map fun n => n.form.mapColumn (scopeOf s made q).emittedName := by
        rw [hrenamed, SyntaxTree.at?_mapColumns, Option.map_map]
        exact congrArg (Option.map · _) (funext fun n => SyntaxTree.form_mapColumns _ n)
    _ = _ := by
        rw [Query.formAt?, Option.map_map]
        rfl

/-- What the planner makes of each reference outside the tables that give way, whatever table its
qualifiers name. It stays where it is, with its qualifiers and its quote marks. Its name is the
technical name of the element that is found under its last part, or the same as before if there is
none; so the reference is the same exactly if no element is found, or if the technical name of the
element is that name too. Everything else outside those tables is the same. -/
theorem reference_of_ofRequest {request : LogicalRequest} {p : Physical}
    (h : ofRequest request s made = .ok p) :
    ∃ (t : LogicalTable) (q physical : Query) (warnings : List Warning),
      request.tables.head? = some t ∧ Query.parse request.sql = .ok q
      ∧ ofQuery s made t q = .ok (physical, warnings) ∧ p.sql = physical.render
      ∧ ∀ path, (∀ cut, Replaces t.name q cut → ¬ cut <+: path) →
        (∀ qualifier name, q.formAt? path = some (.column qualifier name) →
          ∃ name', physical.formAt? path = some (.column qualifier name')
            ∧ name'.quote = name.quote
            ∧ name'.name = ((s.find? name.name).map (·.element.technicalName)).getD name.name
            ∧ (name' = name ↔ ∀ d, s.find? name.name = some d →
              d.element.technicalName = name.name))
        ∧ ((∀ qualifier name, q.formAt? path ≠ some (.column qualifier name)) →
          physical.formAt? path = q.formAt? path) := by
  obtain ⟨t, rest, q, physical, warnings, htables, hread, hquery, rfl⟩ := ofRequest_eq_ok h
  refine ⟨t, q, physical, warnings, by rw [htables]; rfl, hread, hquery, rfl, fun path hout => ?_⟩
  have hform := formAt?_of_ofQuery hquery hout
  refine ⟨fun qualifier name hcolumn => ?_, fun hno => ?_⟩
  · rw [hcolumn] at hform
    refine ⟨_, hform, rfl, Scope.emittedName_eq _ _, ?_⟩
    -- of the two names the texts alone may differ
    have htext : ({ name with name := (scopeOf s made q).emittedName name.name } : Ident) = name
        ↔ (scopeOf s made q).emittedName name.name = name.name :=
      ⟨congrArg Ident.name, fun heq => by rw [heq]⟩
    exact htext.trans Scope.emittedName_eq_self_iff
  · cases hown : q.formAt? path with
    | none => rw [hform, hown, Option.map_none]
    | some form =>
      rw [hform, hown, Option.map_some, Form.mapColumn_of_not_column]
      rintro qualifier name rfl
      exact hno qualifier name hown

/-- A model with a dimension of a name that columns of other tables may have as well. -/
def citySchema : Schema :=
  (Schema.ofNames 1 "t" "t" "dw.t").withDimension (.named "city" "city_name")

/-- A request that joins the table of the model with another one. -/
def joinedRequest : LogicalRequest :=
  ⟨1, "select t.city, u.city from t cross join u", [], none, [⟨"t", [], ["city"]⟩]⟩

def joinedAnswer : Physical where
  sql := "SELECT t.city_name, u.city_name FROM (SELECT city_name FROM dw.t) AS t CROSS JOIN u"
  hasAggregation := false
  warnings := []

theorem ofRequest_joined : ofRequest joinedRequest citySchema none = .ok joinedAnswer := by
  decide +kernel

theorem reference_of_ofRequest_joined :
    ∃ (t : LogicalTable) (q physical : Query) (warnings : List Warning),
      joinedRequest.tables.head? = some t ∧ Query.parse joinedRequest.sql = .ok q
      ∧ ofQuery citySchema none t q = .ok (physical, warnings)
      ∧ joinedAnswer.sql = physical.render
      ∧ ∀ path, (∀ cut, Replaces t.name q cut → ¬ cut <+: path) →
        (∀ qualifier name, q.formAt? path = some (.column qualifier name) →
          ∃ name', physical.formAt? path = some (.column qualifier name')
            ∧ name'.quote = name.quote
            ∧ name'.name
              = ((citySchema.find? name.name).map (·.element.technicalName)).getD name.name
            ∧ (name' = name ↔ ∀ d, citySchema.find? name.name = some d →
              d.element.technicalName = name.name))
        ∧ ((∀ qualifier name, q.formAt? path ≠ some (.column qualifier name)) →
          physical.formAt? path = q.formAt? path) :=
  reference_of_ofRequest ofRequest_joined

/-- The request reads the logical table and a table `u`. Its second item is the column `city` of `u`,
and it is written under the name of a column that only the store of the logical table has. -/
theorem foreign_reference_not_kept :
    ((Query.parse joinedRequest.sql).toOption.map fun q =>
        (q.select?.map fun select => select.sourceTables.map fun table =>
          (bearsName "t" table, table.boundName?), q.formAt? [1, 2, 1]))
        = some (some [(true, some (.plain "t")), (false, some (.plain "u"))],
          some (.column [.plain "u"] (.plain "city")))
      ∧ ofRequest joinedRequest citySchema none = .ok joinedAnswer
      ∧ ((Query.parse joinedAnswer.sql).toOption.map fun q => q.formAt? [1, 2, 1])
        = some (some (.column [.plain "u"] (.plain "city_name"))) := by
  obtain ⟨hrequest, hanswer⟩ : ((Query.parse joinedRequest.sql).toOption.map fun q =>
        (q.select?.map fun select => select.sourceTables.map fun table =>
          (bearsName "t" table, table.boundName?), q.formAt? [1, 2, 1]))
        = some (some [(true, some (.plain "t")), (false, some (.plain "u"))],
          some (.column [.plain "u"] (.plain "city")))
      ∧ ((Query.parse joinedAnswer.sql).toOption.map fun q => q.formAt? [1, 2, 1])
        = some (some (.column [.plain "u"] (.plain "city_name"))) := by
    decide +kernel
  exact ⟨hrequest, ofRequest_joined, hanswer⟩

end Physical

end MetricQuery
