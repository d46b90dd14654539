import MetricQuery.Proofs.Compiler.Compilation
import MetricQuery.Proofs.Planning.Emission
import MetricQuery.Proofs.Planning.Replacement

/-!
# Table references — where an answer still reads the logical table by its name

The logical table is there for the request only: the store has no table of its name. Wherever the
`FROM` clause of the request reads it, the answer reads the derived table. A reference that stands
anywhere else is in the answer what it is in the request.
-/

namespace MetricQuery

open MetricQuery.Sql

theorem Physical.bearsName_of_form {name : String} {t t' : SyntaxTree} (h : t'.form = t.form) :
    bearsName name t' = bearsName name t := by
  rw [bearsName, bearsName, SyntaxTree.tableName?_of_form h]

namespace Compilation

variable {c : Compiler} {databaseType : Option String} {schemas : List Schema} {r : Request}
  {out : Compiled} (k : Compilation c databaseType schemas r out) {path : List Nat}
  {table : SyntaxTree}

/-- The places of the derived table in the answer. -/
def Replaces : List Nat → Prop :=
  Physical.Replaces k.table.name k.corrected

/-- Whether a query refers to the logical table at a path. -/
def RefersAt (q : Query) (path : List Nat) : Prop :=
  ∃ t, q.toTree.at? path = some t ∧ Physical.bearsName k.table.name t = true

theorem respells_renamed :
    k.corrected.Respells (fun a b => b = k.scope.emittedName a) k.renamed :=
  Physical.respells_renameColumns k.scope k.corrected

/-- Where the request reads the logical table there is the derived table, under the name by which
the request refers to it. -/
theorem exists_derivedTable_at (hplace : k.corrected.SourceAt path table)
    (hbears : Physical.bearsName k.table.name table = true) :
    ∃ derived, Physical.derivedTable k.source.render ((table.boundName?.map Ident.render).getD "")
        = .ok derived
      ∧ k.physical.toTree.at? path = some derived := by
  obtain ⟨table', hplace', hrespells⟩ := hplace.respells k.respells_renamed
  obtain ⟨derived, hderived, hfound⟩ := Physical.sourceAt_of_attachSource k.attached hplace'
  have hbears' : Physical.bearsName k.table.name table' = true :=
    (Physical.bearsName_of_respells hrespells).trans hbears
  rw [Physical.attachTo, if_pos hbears', hrespells.boundName?_eq] at hderived
  exact ⟨derived, hderived, hfound.at?⟩

/-- Renaming columns moves no table. -/
theorem refersAt_renamed_iff : k.RefersAt k.renamed path ↔ k.RefersAt k.corrected path := by
  constructor
  · rintro ⟨t, ht, hbears⟩
    obtain ⟨t', ht', hrespells⟩ := k.respells_renamed.flip.at? ht
    exact ⟨t', ht', (Physical.bearsName_of_respells hrespells).trans hbears⟩
  · rintro ⟨t, ht, hbears⟩
    obtain ⟨t', ht', hrespells⟩ := k.respells_renamed.at? ht
    exact ⟨t', ht', (Physical.bearsName_of_respells hrespells).trans hbears⟩

/-- Outside the derived tables the answer refers to the logical table where the request does. -/
theorem refersAt_physical_iff (hout : ∀ p, k.Replaces p → ¬ p <+: path) :
    k.RefersAt k.physical path ↔ k.RefersAt k.corrected path := by
  have hforms : (k.physical.toTree.at? path).map SyntaxTree.form
      = (k.renamed.toTree.at? path).map SyntaxTree.form := by
    refine Physical.sameOutside_attachSource k.attached path fun p hp => hout p ?_
    exact Physical.replaces_of_respells k.respells_renamed.flip hp
  rw [← k.refersAt_renamed_iff, RefersAt, RefersAt]
  -- at both paths there is nothing, or there are nodes of one form
  cases hphysical : k.physical.toTree.at? path with
  | none =>
    rw [hphysical, Option.map_none, eq_comm, Option.map_eq_none_iff] at hforms
    simp [hforms]
  | some t =>
    rw [hphysical, Option.map_some, eq_comm, Option.map_eq_some_iff] at hforms
    obtain ⟨t', hrenamed, hform⟩ := hforms
    simp [hrenamed, Physical.bearsName_of_form hform]

end Compilation

/-- Where an answer refers to the logical table. In the places where the `FROM` clause of the
corrected request reads it, the answer has the derived table. In all other places it refers to the
logical table exactly where the corrected request does; so no reference is left exactly if all
references of the corrected request are read by its `FROM` clause, or lie below one that is. -/
theorem table_references_of_convert {c : Compiler} {databaseType : Option String}
    {schemas : List Schema} {r : Request} {out : Compiled}
    (h : c.convert databaseType schemas r = .ok out) (hnonempty : out.isEmpty = false) :
    ∃ k : Compilation c databaseType schemas r out,
      (∀ path table, k.corrected.SourceAt path table →
        Physical.bearsName k.table.name table = true →
        ∃ derived, Physical.derivedTable k.source.render
            ((table.boundName?.map Ident.render).getD "") = .ok derived
          ∧ k.physical.toTree.at? path = some derived)
      ∧ (∀ path, (∀ p, k.Replaces p → ¬ p <+: path) →
        (k.RefersAt k.physical path ↔ k.RefersAt k.corrected path))
      ∧ ((∀ path, (∀ p, k.Replaces p → ¬ p <+: path) → ¬ k.RefersAt k.physical path)
        ↔ ∀ path, k.RefersAt k.corrected path → ∃ p, k.Replaces p ∧ p <+: path) := by
  obtain ⟨k⟩ := Compiler.compilation_of_convert h hnonempty
  refine ⟨k, fun path table => k.exists_derivedTable_at, fun path => k.refersAt_physical_iff, ?_⟩
  -- a reference that stays in the answer is one that stood outside all that gives way
  constructor
  · intro hnone path hrefers
    by_contra hno
    have hout : ∀ p, k.Replaces p → ¬ p <+: path := fun p hp hprefix => hno ⟨p, hp, hprefix⟩
    exact hnone path hout ((k.refersAt_physical_iff hout).2 hrefers)
  · intro hall path hout hrefers
    obtain ⟨p, hp, hprefix⟩ := hall path ((k.refersAt_physical_iff hout).1 hrefers)
    exact hout p hp hprefix

/-- A model with one dimension. -/
def nestedReferenceSchema : Schema :=
  (Schema.ofNames 1 "t" "t" "dw.t").withDimension (.named "city" "city_name")

/-- A request that reads the logical table once more in a condition. -/
def nestedReferenceRequest : Request :=
  ⟨1, "select city from t where city in (select city from t)", []⟩

def nestedReferenceAnswer : Compiled where
  sql := "SELECT city_name FROM (SELECT city_name, COUNT(1) AS t_internal_cnt FROM dw.t "
    ++ "GROUP BY city_name) AS t WHERE city_name IN (SELECT city_name FROM t) LIMIT 1000"
  logicalTable := some ⟨"t", ["t_internal_cnt"], ["city"]⟩
  hasAggregation := false
  warnings := []

theorem convert_nestedReference :
    Compiler.standard.convert none [nestedReferenceSchema] nestedReferenceRequest
      = .ok nestedReferenceAnswer := by
  decide +kernel

theorem table_references_of_convert_nested :
    ∃ k : Compilation .standard none [nestedReferenceSchema] nestedReferenceRequest
        nestedReferenceAnswer,
      (∀ path table, k.corrected.SourceAt path table →
        Physical.bearsName k.table.name table = true →
        ∃ derived, Physical.derivedTable k.source.render
            ((table.boundName?.map Ident.render).getD "") = .ok derived
          ∧ k.physical.toTree.at? path = some derived)
      ∧ (∀ path, (∀ p, k.Replaces p → ¬ p <+: path) →
        (k.RefersAt k.physical path ↔ k.RefersAt k.corrected path))
      ∧ ((∀ path, (∀ p, k.Replaces p → ¬ p <+: path) → ¬ k.RefersAt k.physical path)
        ↔ ∀ path, k.RefersAt k.corrected path → ∃ p, k.Replaces p ∧ p <+: path) :=
  table_references_of_convert convert_nestedReference (by decide +kernel)

/-- The condition still reads the logical table by its name, though its column has been renamed. The
path leads to the `WHERE` clause of the body, into the query behind `IN`, and to the table there. -/
theorem table_reference_left :
    Compiler.standard.convert none [nestedReferenceSchema] nestedReferenceRequest
        = .ok nestedReferenceAnswer
      ∧ ((Query.parse nestedReferenceAnswer.sql).toOption.bind fun q =>
          q.toTree.at? [1, 6, 0, 1, 1, 3, 0, 0]).map (Physical.bearsName "t") = some true
      ∧ ∀ k : Compilation .standard none [nestedReferenceSchema] nestedReferenceRequest
          nestedReferenceAnswer,
        k.table.name = "t" ∧ ∀ p, k.Replaces p → ¬ p <+: [1, 6, 0, 1, 1, 3, 0, 0] := by
  refine ⟨convert_nestedReference, by decide +kernel, fun k => ⟨?_, fun p hreplaces => ?_⟩⟩
  · have htable : k.table = ⟨"t", ["t_internal_cnt"], ["city"]⟩ :=
      (Option.some.inj k.answered).symm
    rw [htable]
  · -- what gives way stands in the fourth clause of the body
    obtain ⟨table, hplace, -⟩ := hreplaces
    obtain ⟨-, -, -, -⟩ := hplace
    intro hprefix
    have hsecond := (List.cons_prefix_cons.1 (List.cons_prefix_cons.1 hprefix).2).1
    cases hsecond

end MetricQuery
