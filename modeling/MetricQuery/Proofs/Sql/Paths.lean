import MetricQuery.Proofs.Sql.Respelling

/-!
# Paths — where the nodes of a tree stand

A path goes from a tree to one of its parts, from there to a part of that part, and so on. What is
changed at some paths leaves the form of every node that does not lie below one of them as it is.
-/

namespace MetricQuery.Sql

namespace SyntaxTree

/-- The subtree at a path, if the path does not leave the tree. -/
def at? (t : SyntaxTree) : List Nat → Option SyntaxTree
  | [] => some t
  | i :: path => t.parts[i]?.bind fun p => p.at? path

theorem at?_cons (t : SyntaxTree) (i : Nat) (path : List Nat) :
    t.at? (i :: path) = t.parts[i]?.bind fun p => p.at? path := rfl

theorem at?_cons_eq_some {t n : SyntaxTree} {i : Nat} {path : List Nat} :
    t.at? (i :: path) = some n ↔ ∃ p, t.parts[i]? = some p ∧ p.at? path = some n := by
  rw [at?_cons, Option.bind_eq_some_iff]

/-- A tree is the forms that are in it at each place. -/
theorem ext_at? {t t' : SyntaxTree} (h : ∀ path, (t'.at? path).map form = (t.at? path).map form) :
    t' = t := by
  induction t using SyntaxTree.induction generalizing t' with
  | node form parts ih =>
    obtain ⟨form', parts'⟩ := t'
    have hbelow : ∀ k path, ((parts'[k]?.bind fun p : SyntaxTree => p.at? path).map SyntaxTree.form)
        = (parts[k]?.bind fun p : SyntaxTree => p.at? path).map SyntaxTree.form :=
      fun k path => h (k :: path)
    -- at each position both trees have a part or neither has: the empty path below it tells
    have hparts : parts' = parts := by
      refine List.ext_getElem? fun k => ?_
      cases hk : parts[k]? with
      | none =>
        cases hk' : parts'[k]? with
        | none => rfl
        | some p' =>
          have hroot := hbelow k []
          rw [hk, hk'] at hroot
          cases hroot
      | some p =>
        cases hk' : parts'[k]? with
        | none =>
          have hroot := hbelow k []
          rw [hk, hk'] at hroot
          cases hroot
        | some p' =>
          refine congrArg some (ih p (List.mem_of_getElem? hk) fun path => ?_)
          have hpath := hbelow k path
          rw [hk, hk'] at hpath
          exact hpath
    have hform : form' = form := Option.some.inj (h [])
    rw [hform, hparts]

/-- Respelled trees are respelled at every path. -/
theorem Respells.at? {P : String → String → Prop} {t t' n : SyntaxTree} {path : List Nat}
    (h : t.Respells P t') (hn : t.at? path = some n) :
    ∃ n', t'.at? path = some n' ∧ n.Respells P n' := by
  induction path generalizing t t' with
  | nil =>
    obtain rfl := Option.some.inj hn
    exact ⟨t', rfl, h⟩
  | cons i path ih =>
    obtain ⟨p, hp, hn⟩ := at?_cons_eq_some.1 hn
    obtain ⟨p', hp', hrespells⟩ := exists_getElem?_of_forall₂ h.parts hp
    obtain ⟨n', hn', hfound⟩ := ih hrespells hn
    exact ⟨n', at?_cons_eq_some.2 ⟨p', hp', hn'⟩, hfound⟩

/-! ## Changes at some paths -/

/-- Whether two trees have the same form at each path that does not lie below a cut. -/
def SameOutside (cut : List Nat → Prop) (t t' : SyntaxTree) : Prop :=
  ∀ path, (∀ p, cut p → ¬ p <+: path) → (t'.at? path).map form = (t.at? path).map form

variable {cut : List Nat → Prop} {form : Form} {parts parts' : List SyntaxTree} {t t' : SyntaxTree}

theorem SameOutside.refl (cut : List Nat → Prop) (t : SyntaxTree) : SameOutside cut t t :=
  fun _ _ => rfl

theorem SameOutside.mono {cut' : List Nat → Prop} (h : SameOutside cut t t')
    (hcut : ∀ p, cut p → cut' p) : SameOutside cut' t t' :=
  fun path hout => h path fun p hp => hout p (hcut p hp)

/-- Nothing lies outside a cut at the root. -/
theorem sameOutside_of_cut_nil (h : cut []) (t t' : SyntaxTree) : SameOutside cut t t' :=
  fun _ hout => absurd List.nil_prefix (hout [] h)

/-- Two nodes of one form are the same outside the cuts if their parts are. -/
theorem sameOutside_node (hlength : parts.length = parts'.length)
    (hparts : ∀ i p p', parts[i]? = some p → parts'[i]? = some p' →
      SameOutside (fun path => cut (i :: path)) p p') :
    SameOutside cut (.node form parts) (.node form parts') := by
  intro path hout
  cases path with
  | nil => rfl
  | cons i path =>
    rw [at?_cons, at?_cons]
    show (parts'[i]?.bind fun p => p.at? path).map _ = (parts[i]?.bind fun p => p.at? path).map _
    by_cases hi : i < parts.length
    · have hp := List.getElem?_eq_getElem hi
      have hp' := List.getElem?_eq_getElem (hlength ▸ hi)
      rw [hp, hp']
      -- a cut above the part is a cut above the node
      exact hparts i _ _ hp hp' path fun p hcut hprefix =>
        hout (i :: p) hcut (List.cons_prefix_cons.2 ⟨rfl, hprefix⟩)
    · rw [List.getElem?_eq_none (Nat.le_of_not_lt hi),
        List.getElem?_eq_none (hlength ▸ Nat.le_of_not_lt hi)]

/-- A node of which one part has been changed. -/
theorem sameOutside_set {n : Nat} {p p' : SyntaxTree} (hp : parts[n]? = some p)
    (h : SameOutside (fun path => cut (n :: path)) p p') :
    SameOutside cut (.node form parts) (.node form (parts.set n p')) := by
  refine sameOutside_node (by rw [List.length_set]) fun i own own' hown hown' => ?_
  by_cases hi : n = i
  · subst hi
    have hn : n < parts.length := (List.getElem?_eq_some_iff.1 hp).1
    rw [List.getElem?_set_self hn] at hown'
    obtain rfl : p = own := Option.some.inj (hp.symm.trans hown)
    obtain rfl : p' = own' := Option.some.inj hown'
    exact h
  · rw [List.getElem?_set_ne hi, hown] at hown'
    obtain rfl : own = own' := Option.some.inj hown'
    exact .refl _ _

end SyntaxTree

/-! ## The tables of a `FROM` clause -/

/-- The places of a table and of the tables that are joined to it. -/
inductive SyntaxTree.SourceAt : SyntaxTree → List Nat → SyntaxTree → Prop where
  | first {table : SyntaxTree} {joins : List SyntaxTree} :
    SourceAt (.clause .joined (table :: joins)) [0] table
  | joined {first table : SyntaxTree} {joins rest : List SyntaxTree} {j : Nat} {kind : JoinKind}
    {natural isGlobal : Bool}
    (hjoin : joins[j]? = some (.clause (.join kind natural isGlobal) (table :: rest))) :
    SourceAt (.clause .joined (first :: joins)) [j + 1, 0] table

/-- The places of the tables that a query reads itself: the body of a query is its second clause,
and the `FROM` clause is the fourth one of a `SELECT`. -/
inductive Query.SourceAt (q : Query) : List Nat → SyntaxTree → Prop where
  | mk {s : Select} {tables : List SyntaxTree} {i : Nat} {tree table : SyntaxTree}
    {path : List Nat} (hselect : q.select? = some s) (hfrom : s.sources = .clause .from tables)
    (htree : tables[i]? = some tree) (hplace : tree.SourceAt path table) :
    SourceAt q (1 :: 3 :: i :: path) table

section

variable {P : String → String → Prop} {path : List Nat} {table : SyntaxTree}

namespace SyntaxTree

theorem joinedTable?_eq_some {join : SyntaxTree} : join.joinedTable? = some table
    ↔ ∃ kind natural isGlobal rest,
      join = .clause (.join kind natural isGlobal) (table :: rest) := by
  constructor
  · intro h
    unfold joinedTable? at h
    split at h
    · obtain rfl := Option.some.inj h
      exact ⟨_, _, _, _, rfl⟩
    · cases h
  · rintro ⟨kind, natural, isGlobal, rest, rfl⟩
    rfl

/-- The tables that have a place are the ones that are read. -/
theorem exists_sourceAt_iff {t : SyntaxTree} : (∃ path, t.SourceAt path table) ↔ table ∈ t.sources := by
  constructor
  · rintro ⟨path, hplace⟩
    cases hplace with
    | first => exact List.mem_cons_self
    | joined hjoin =>
      exact List.mem_cons_of_mem _ (List.mem_filterMap.2 ⟨_, List.mem_of_getElem? hjoin, rfl⟩)
  · intro h
    unfold sources at h
    split at h
    · rcases List.mem_cons.1 h with rfl | h
      · exact ⟨_, .first⟩
      · obtain ⟨join, hjoin, htable⟩ := List.mem_filterMap.1 h
        obtain ⟨kind, natural, isGlobal, rest, rfl⟩ := joinedTable?_eq_some.1 htable
        obtain ⟨j, hj⟩ := List.getElem?_of_mem hjoin
        exact ⟨_, .joined hj⟩
    · cases h

theorem SourceAt.at? {t : SyntaxTree} (h : t.SourceAt path table) : t.at? path = some table := by
  cases h with
  | first => rfl
  | joined hjoin => exact at?_cons_eq_some.2 ⟨_, hjoin, rfl⟩

/-- Respelled trees have their tables in the same places. -/
theorem SourceAt.respells {t t' : SyntaxTree} (h : t.SourceAt path table)
    (hrespells : t.Respells P t') : ∃ table', t'.SourceAt path table' ∧ table.Respells P table' := by
  obtain ⟨first, joins, rfl⟩ : ∃ first joins, t = .clause .joined (first :: joins) := by
    cases h <;> exact ⟨_, _, rfl⟩
  obtain ⟨parts', hparts, rfl⟩ := (clausewise_respells P _ _ _).1 hrespells
  obtain ⟨first', joins', hfirst, hjoins, rfl⟩ := List.forall₂_cons_left_iff.1 hparts
  cases h with
  | first => exact ⟨first', .first, hfirst⟩
  | joined hjoin =>
    -- the join is a clause too, and its table is the first part
    obtain ⟨join', hjoin', hrelated⟩ := exists_getElem?_of_forall₂ hjoins hjoin
    obtain ⟨own, hown, rfl⟩ := (clausewise_respells P _ _ _).1 hrelated
    obtain ⟨table', rest', htable, -, rfl⟩ := List.forall₂_cons_left_iff.1 hown
    exact ⟨table', .joined hjoin', htable⟩

end SyntaxTree

theorem Query.SourceAt.at? {q : Query} (h : q.SourceAt path table) :
    q.toTree.at? path = some table := by
  obtain ⟨hselect, hfrom, htree, hplace⟩ := h
  have hbody := (Select.toTree_of_ofTree? hselect).symm
  refine SyntaxTree.at?_cons_eq_some.2 ⟨q.body, rfl, ?_⟩
  rw [hbody]
  refine SyntaxTree.at?_cons_eq_some.2 ⟨_, rfl, ?_⟩
  rw [hfrom]
  exact SyntaxTree.at?_cons_eq_some.2 ⟨_, htree, hplace.at?⟩

/-- Each table that a `SELECT` with a `FROM` clause reads has its place in the query. -/
theorem Query.exists_sourceAt_iff {q : Query} {s : Select} {tables : List SyntaxTree}
    (hs : q.select? = some s) (hfrom : s.sources = .clause .from tables) :
    (∃ path, q.SourceAt path table) ↔ table ∈ s.sourceTables := by
  have hparts : s.sources.parts = tables := by rw [hfrom]; rfl
  rw [Select.sourceTables, hparts, List.mem_flatMap]
  constructor
  · rintro ⟨_, hselect, hfrom', htree, hplace⟩
    obtain rfl := Option.some.inj (hs.symm.trans hselect)
    obtain rfl := (SyntaxTree.node.inj (hfrom.symm.trans hfrom')).2
    exact ⟨_, List.mem_of_getElem? htree, SyntaxTree.exists_sourceAt_iff.1 ⟨_, hplace⟩⟩
  · rintro ⟨tree, htree, htable⟩
    obtain ⟨i, hi⟩ := List.getElem?_of_mem htree
    obtain ⟨path, hplace⟩ := SyntaxTree.exists_sourceAt_iff.2 htable
    exact ⟨_, hs, hfrom, hi, hplace⟩

theorem Query.SourceAt.respells {q q' : Query} (h : q.SourceAt path table)
    (hrespells : q.Respells P q') : ∃ table', q'.SourceAt path table' ∧ table.Respells P table' := by
  obtain ⟨hselect, hfrom, htree, hplace⟩ := h
  obtain ⟨s', hselect', hrelated⟩ :=
    (SyntaxTree.clausewise_respells P).exists_select? hrespells hselect
  have hsources := hrelated.sources
  rw [hfrom] at hsources
  obtain ⟨tables', htables, hfrom'⟩ := (SyntaxTree.clausewise_respells P _ _ _).1 hsources
  obtain ⟨tree', htree', htrees⟩ := SyntaxTree.exists_getElem?_of_forall₂ htables htree
  obtain ⟨table', hplace', htable⟩ := hplace.respells htrees
  exact ⟨table', ⟨hselect', hfrom', htree', hplace'⟩, htable⟩

end

end MetricQuery.Sql
