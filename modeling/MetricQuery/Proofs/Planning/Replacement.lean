import MetricQuery.Proofs.Planning.Attachment
import MetricQuery.Proofs.Sql.Paths

/-!
# Replacement — which tables give way to the derived table

A table of the `FROM` clause that bears the name of the logical table gives way to the derived
table, in its place. A table that stands anywhere else, inside parentheses, in a nested query or in
a common table, is not looked at, whatever its name.
-/

namespace MetricQuery.Physical

open MetricQuery.Sql MetricQuery.Sql.SyntaxTree

section

variable {ε : Type} {f : SyntaxTree → Except ε SyntaxTree} {changes : SyntaxTree → Bool}
  {t t' table : SyntaxTree} {path : List Nat}

/-- Where a change is made, its result stands. -/
theorem sourceAt_of_mapSources (h : t.mapSources f = .ok t') (hplace : t.SourceAt path table) :
    ∃ table', f table = .ok table' ∧ t'.SourceAt path table' := by
  have hsource : table ∈ t.sources := exists_sourceAt_iff.1 ⟨path, hplace⟩
  rcases mapSources_eq_ok h with ⟨-, hnil⟩ | ⟨first, first', joins, joins', rfl, hfirst, hjoins, rfl⟩
  · rw [hnil] at hsource
    cases hsource
  · cases hplace with
    | first => exact ⟨first', hfirst, .first⟩
    | joined hjoin =>
      obtain ⟨join', hjoin', hmapped⟩ := exists_getElem?_of_forall₂ hjoins hjoin
      rcases mapJoined_eq_ok hmapped with ⟨-, hnone⟩ | ⟨_, _, _, _, table', rest, heq, htable, rfl⟩
      · cases hnone
      · cases heq
        exact ⟨table', htable, .joined hjoin'⟩

/-- The tables change one by one. -/
theorem sources_of_mapSources (h : t.mapSources f = .ok t') :
    List.Forall₂ (fun table table' => f table = .ok table') t.sources t'.sources := by
  rcases mapSources_eq_ok h with ⟨rfl, hnil⟩ | ⟨first, first', joins, joins', rfl, hfirst, hjoins, rfl⟩
  · rw [hnil]
    exact .nil
  · refine .cons hfirst (List.rel_filterMap (fun join join' hmapped => ?_) hjoins)
    rcases mapJoined_eq_ok hmapped with ⟨rfl, hnone⟩ | ⟨_, _, _, _, table', rest, rfl, htable, rfl⟩
    · rw [hnone]
      exact .none
    · exact .some htable

variable (hkeep : ∀ table, changes table = false → f table = .ok table)

include hkeep

/-- A table is the same outside the cuts if it is cut wherever it changes. -/
theorem sameOutside_of_change {cut : List Nat → Prop} {table' : SyntaxTree}
    (h : f table = .ok table') (hcut : changes table = true → cut []) :
    SameOutside cut table table' := by
  cases hchanges : changes table with
  | true => exact sameOutside_of_cut_nil (hcut hchanges) _ _
  | false =>
    have hsame := hkeep table hchanges
    rw [h] at hsame
    obtain rfl := Except.ok.inj hsame
    exact .refl _ _

/-- A table with its joins is the same outside the tables that change. -/
theorem sameOutside_mapSources (h : t.mapSources f = .ok t') :
    SameOutside (fun p => ∃ table, t.SourceAt p table ∧ changes table = true) t t' := by
  rcases mapSources_eq_ok h with ⟨rfl, -⟩ | ⟨first, first', joins, joins', rfl, hfirst, hjoins, rfl⟩
  · exact .refl _ _
  · have hlength : (first :: joins).length = (first' :: joins').length := by
      rw [List.length_cons, List.length_cons, hjoins.length_eq]
    refine sameOutside_node hlength fun i own own' hown hown' => ?_
    cases i with
    | zero =>
      obtain rfl := Option.some.inj hown
      obtain rfl := Option.some.inj hown'
      exact sameOutside_of_change hkeep hfirst fun hchanges => ⟨_, .first, hchanges⟩
    | succ j =>
      have hjoin : joins[j]? = some own := hown
      obtain ⟨join', hjoin', hmapped⟩ := exists_getElem?_of_forall₂ hjoins hjoin
      obtain rfl : join' = own' := Option.some.inj (hjoin'.symm.trans hown')
      rcases mapJoined_eq_ok hmapped with ⟨rfl, -⟩ |
        ⟨kind, natural, isGlobal, table, table', rest, rfl, htable, rfl⟩
      · exact .refl _ _
      · -- of the join only the table is another one
        refine sameOutside_set (n := 0) rfl ?_
        exact sameOutside_of_change hkeep htable fun hchanges => ⟨table, .joined hjoin, hchanges⟩

end

/-! ## The query -/

variable {name inner : String} {q q' : Query} {table : SyntaxTree} {path : List Nat}

/-- A table that does not bear the name stays. -/
theorem attachTo_of_not_bearsName (h : bearsName name table = false) :
    attachTo name inner table = .ok table := by
  rw [attachTo, h]
  rfl

/-- The name of a table is not that of a column. -/
theorem bearsName_of_respells {P : String → String → Prop} {t t' : SyntaxTree}
    (h : t.Respells P t') : bearsName name t' = bearsName name t := by
  rw [bearsName, bearsName, h.tableName?_eq]

/-- The places of the tables that give way: the tables of the `FROM` clause that bear the name. -/
def Replaces (name : String) (q : Query) (path : List Nat) : Prop :=
  ∃ table, q.SourceAt path table ∧ bearsName name table = true

theorem replaces_of_respells {P : String → String → Prop} (h : q.Respells P q')
    (hreplaces : Replaces name q path) : Replaces name q' path := by
  obtain ⟨table, hplace, hbears⟩ := hreplaces
  obtain ⟨table', hplace', hrespells⟩ := hplace.respells h
  exact ⟨table', hplace', (bearsName_of_respells hrespells).trans hbears⟩

/-- Each table of the `FROM` clause has become what is attached to it, in its place. -/
theorem sourceAt_of_attachSource (h : attachSource name inner q = .ok q')
    (hplace : q.SourceAt path table) :
    ∃ table', attachTo name inner table = .ok table' ∧ q'.SourceAt path table' := by
  obtain ⟨hselect, hfrom, htree, hplace⟩ := hplace
  rcases attachSource_eq_ok h with ⟨hnone, -⟩ | ⟨s, s', hs, hmap, rfl⟩
  · rw [hselect] at hnone
    cases hnone
  · obtain rfl := Option.some.inj (hselect.symm.trans hs)
    rcases Select.mapSources_eq_ok hmap with ⟨-, hno⟩ | ⟨tables, tables', hfrom', rfl, hall⟩
    · exact absurd hfrom (hno _)
    · rw [hfrom] at hfrom'
      cases hfrom'
      obtain ⟨tree', htree', hmapped⟩ := exists_getElem?_of_forall₂ hall htree
      obtain ⟨table', hattached, hplace'⟩ := sourceAt_of_mapSources hmapped hplace
      exact ⟨table', hattached, ⟨rfl, rfl, htree', hplace'⟩⟩

/-- The relations of a query change one by one, if what it has in the place of its `FROM` clause is
one. -/
theorem relations_of_attachSource (h : attachSource name inner q = .ok q')
    (hfrom : ∀ s, q.select? = some s →
      s.sources = .absent ∨ ∃ tables, s.sources = .clause .from tables) :
    List.Forall₂ (fun table table' => attachTo name inner table = .ok table')
      q.relations q'.relations := by
  rcases attachSource_eq_ok h with ⟨hnone, rfl⟩ | ⟨s, s', hs, hmap, rfl⟩
  · rw [Query.relations, hnone]
    exact .nil
  · have hs' : ({ q with body := s'.toTree } : Query).relations = s'.sourceTables := rfl
    rw [Query.relations_eq hs, hs', Select.sourceTables, Select.sourceTables]
    rcases Select.mapSources_eq_ok hmap with ⟨rfl, hno⟩ | ⟨tables, tables', hown, rfl, hall⟩
    · -- nothing has been replaced, so that there are no tables to read
      obtain habsent | ⟨tables, hown⟩ := hfrom _ hs
      · rw [habsent]
        exact .nil
      · exact absurd hown (hno tables)
    · rw [hown]
      exact List.rel_flatMap hall fun _ _ => sources_of_mapSources

/-- Nothing else changes: outside the tables that give way all forms stay where they are. -/
theorem sameOutside_attachSource (h : attachSource name inner q = .ok q') :
    SameOutside (Replaces name q) q.toTree q'.toTree := by
  rcases attachSource_eq_ok h with ⟨-, rfl⟩ | ⟨s, s', hs, hmap, rfl⟩
  · exact .refl _ _
  · have hbody := Select.toTree_of_ofTree? hs
    rcases Select.mapSources_eq_ok hmap with ⟨rfl, -⟩ | ⟨tables, tables', hfrom, rfl, hall⟩
    · rw [hbody]
      exact .refl _ _
    · -- down to the `FROM` clause of the body, and along its tables
      refine sameOutside_set (n := 1) (p := s.toTree) (by rw [hbody]; rfl) ?_
      refine sameOutside_set (n := 3) (p := .clause .from tables) (by rw [← hfrom]; rfl) ?_
      refine sameOutside_node hall.length_eq fun i tree tree' htree htree' => ?_
      obtain ⟨own, hown, hmapped⟩ := exists_getElem?_of_forall₂ hall htree
      obtain rfl : own = tree' := Option.some.inj (hown.symm.trans htree')
      have hsame : SameOutside (fun p => ∃ table, tree.SourceAt p table ∧ bearsName name table = true)
          tree own := sameOutside_mapSources (fun _ => attachTo_of_not_bearsName) hmapped
      refine hsame.mono fun p hp => ?_
      obtain ⟨table, hplace, hbears⟩ := hp
      exact ⟨table, ⟨hs, hfrom, htree, hplace⟩, hbears⟩

end MetricQuery.Physical
