import MetricQuery.Correction.RowLimit
import MetricQuery.Proofs.Correction.ShownNames
import MetricQuery.Proofs.Sql.Clausewise
import MetricQuery.Proofs.Text.Natural

/-!
# Edits — what appending columns and limiting rows do to a query

Both edits answer with a query only when they have changed something. A query that has been limited
keeps to the ceiling, and one whose columns have been appended has none to append.
-/

namespace MetricQuery.Sql

theorem Select.items_withItems (s : Select) (items : List SyntaxTree) :
    (s.withItems items).items = items := rfl

theorem Select.projection_mem_clauses (s : Select) : s.projection ∈ s.clauses := by
  simp [clauses]

theorem Select.condition_mem_clauses (s : Select) : s.condition ∈ s.clauses := by
  simp [clauses]

theorem Select.grouping_mem_clauses (s : Select) : s.grouping ∈ s.clauses := by
  simp [clauses]

theorem Query.body_mem_clauses (q : Query) : q.body ∈ q.clauses := by
  simp [clauses]

theorem Query.orderBy_mem_clauses (q : Query) : q.orderBy ∈ q.clauses := by
  simp [clauses]

theorem Query.select_mem_clauses {q : Query} {s : Select} (h : q.select? = some s) :
    s.toTree ∈ q.clauses := by
  rw [Select.toTree_of_ofTree? h]
  exact q.body_mem_clauses

/-- The `SELECT` of a query whose body has been replaced by one. -/
theorem Query.select?_withBody (q : Query) (s : Select) :
    ({ q with body := s.toTree } : Query).select? = some s := rfl

end MetricQuery.Sql

namespace MetricQuery.Correction

open MetricQuery.Text MetricQuery.Sql MetricQuery.Sql.SyntaxTree

variable {q q' : Query} {s : Select} {ceiling : Nat} {append : Bool}

/-! ## The row limit -/

theorem limitCount?_limitClause (h : ceiling ≤ maxWord) :
    ({ q with limit := limitClause ceiling } : Query).limitCount? = some ceiling :=
  readWord?_toString h

theorem limitRows?_eq_some :
    limitRows? ceiling q = some q'
      ↔ withinCeiling ceiling q = false ∧ q' = { q with limit := limitClause ceiling } := by
  unfold limitRows?
  split
  · next h => simp [h]
  · next h => simp [h, eq_comm]

theorem withinCeiling_eq_true :
    withinCeiling ceiling q = true ↔ ∃ n, q.limitCount? = some n ∧ n ≤ ceiling := by
  unfold withinCeiling
  cases q.limitCount? with
  | none => simp
  | some n => simp

theorem withinCeiling_limitClause (h : ceiling ≤ maxWord) :
    withinCeiling ceiling { q with limit := limitClause ceiling } = true := by
  simp only [withinCeiling, limitCount?_limitClause h, Nat.le_refl, decide_true]

/-- Limiting a query changes it: one that has the ceiling for its limit keeps to it. -/
theorem ne_of_limitRows? (hword : ceiling ≤ maxWord)
    (h : limitRows? ceiling q = some q') : q' ≠ q := by
  obtain ⟨hover, rfl⟩ := limitRows?_eq_some.1 h
  intro heq
  rw [← heq, withinCeiling_limitClause hword] at hover
  cases hover

theorem toNat_le_maxWord (ceiling : UInt64) : ceiling.toNat ≤ maxWord :=
  Nat.le_of_lt_succ ceiling.toNat_lt

/-- The query with its rows limited. -/
def limited (ceiling : Nat) (q : Query) : Query :=
  (limitRows? ceiling q).getD q

theorem limited_cases (ceiling : Nat) (q : Query) :
    limited ceiling q = q ∧ withinCeiling ceiling q = true
      ∨ limited ceiling q = { q with limit := limitClause ceiling } := by
  unfold limited limitRows?
  split
  · next h => exact .inl ⟨rfl, h⟩
  · exact .inr rfl

theorem withinCeiling_limited (h : ceiling ≤ maxWord) :
    withinCeiling ceiling (limited ceiling q) = true := by
  rcases limited_cases ceiling q with ⟨heq, hwithin⟩ | heq
  · rw [heq, hwithin]
  · rw [heq, withinCeiling_limitClause h]

theorem limited_eq_self (h : withinCeiling ceiling q = true) : limited ceiling q = q := by
  rw [limited, limitRows?, if_pos h]
  rfl

theorem limited_of_over (h : withinCeiling ceiling q ≠ true) :
    limited ceiling q = { q with limit := limitClause ceiling } := by
  rw [limited, limitRows?, if_neg h]
  rfl

theorem select?_limited (ceiling : Nat) (q : Query) :
    (limited ceiling q).select? = q.select? := by
  rcases limited_cases ceiling q with ⟨heq, -⟩ | heq
  · rw [heq]
  · rw [heq]
    rfl

/-- Limiting rows brings a number. -/
theorem mem_exprs_of_limited {n : SyntaxTree} (h : n ∈ (limited ceiling q).toTree.exprs) :
    n ∈ q.toTree.exprs ∨ n = .expr (.literal (.number (toString ceiling) false)) [] := by
  rcases limited_cases ceiling q with ⟨heq, -⟩ | heq
  · rw [heq] at h
    exact .inl h
  · rw [heq] at h
    obtain ⟨p, hp, hn⟩ := mem_exprs_clause.1 h
    have hset : p ∈ q.clauses.set 3 (limitClause ceiling) := hp
    rcases List.mem_or_eq_of_mem_set hset with hp | rfl
    · exact .inl (mem_exprs_of_mem_part hp hn)
    · have hnumber : (limitClause ceiling).exprs
          = [.expr (.literal (.number (toString ceiling) false)) []] := rfl
      rw [hnumber, List.mem_singleton] at hn
      exact .inr hn

/-! ## Appended columns -/

theorem mem_appendedColumns {column : SyntaxTree} :
    column ∈ appendedColumns q s ↔ column ∈ referencedColumns q s ∧ isMissing s column = true := by
  rw [appendedColumns, mem_bucketOrder, List.mem_filter]

theorem appendColumns?_eq_some :
    appendColumns? q = some q' ↔ ∃ s, q.select? = some s ∧ takesColumns s = true
      ∧ (referencedColumns q s).any (isMissing s) = true
      ∧ q' = { q with body := (s.withItems (s.items ++ appendedColumns q s)).toTree } := by
  unfold appendColumns?
  cases q.select? with
  | none => simp
  | some s =>
    by_cases h : (takesColumns s && (referencedColumns q s).any (isMissing s)) = true
    · simp only [h, if_true, Option.some.injEq, exists_eq_left']
      rw [Bool.and_eq_true] at h
      exact ⟨fun hq => ⟨h.1, h.2, hq.symm⟩, fun hq => hq.2.2.symm⟩
    · simp only [h, Option.some.injEq, exists_eq_left']
      rw [Bool.and_eq_true] at h
      exact ⟨fun hq => absurd hq (by simp), fun hq => absurd ⟨hq.1, hq.2.1⟩ h⟩

/-- Nothing is appended where every name that is referred to is in the list or reserved. -/
theorem appendColumns?_eq_none : appendColumns? q = none ↔ ∀ s, q.select? = some s →
    takesColumns s = true → ∀ c ∈ referencedColumns q s, isMissing s c = false := by
  rw [Option.eq_none_iff_forall_ne_some]
  constructor
  · intro h s hs htakes c hc
    by_contra hmissing
    have hany : (referencedColumns q s).any (isMissing s) = true :=
      List.any_eq_true.2 ⟨c, hc, by simpa using hmissing⟩
    exact h _ (appendColumns?_eq_some.2 ⟨s, hs, htakes, hany, rfl⟩)
  · intro h q' hq'
    obtain ⟨s, hs, htakes, hany, -⟩ := appendColumns?_eq_some.1 hq'
    obtain ⟨c, hc, hmissing⟩ := List.any_eq_true.1 hany
    rw [h s hs htakes c hc] at hmissing
    cases hmissing

/-- A query whose columns have been appended has none to append. -/
theorem appendColumns?_appended (h : appendColumns? q = some q') : appendColumns? q' = none := by
  obtain ⟨s, hs, -, -, rfl⟩ := appendColumns?_eq_some.1 h
  refine appendColumns?_eq_none.2 fun s' hs' _ c hc => ?_
  rw [Query.select?_withBody, Option.some.injEq] at hs'
  subst hs'
  have hreferenced : c ∈ referencedColumns q s := hc
  by_cases hmissing : isMissing s c = true
  · -- it has been appended
    have hname : hasName (s.withItems (s.items ++ appendedColumns q s)).fields (referenceName c)
        = true := by
      refine hasName_fields.2 ⟨c, List.mem_append_right _ ?_, .inl ?_⟩
      · exact mem_appendedColumns.2 ⟨hreferenced, hmissing⟩
      · exact showsName_of_mem_referencedColumns hreferenced
    rw [isMissing, hname]
    rfl
  · -- every name of the old list is in the new one
    have hnames : hasName s.fields (referenceName c) = true →
        hasName (s.withItems (s.items ++ appendedColumns q s)).fields (referenceName c) = true := by
      rw [hasName_fields, hasName_fields]
      rintro ⟨item, hitem, hname⟩
      exact ⟨item, List.mem_append_left _ hitem, hname⟩
    simp only [isMissing, Bool.and_eq_true, Bool.not_eq_true', not_and_or, Bool.not_eq_false,
      Bool.and_eq_false_iff, Bool.not_eq_false', Bool.not_eq_true] at hmissing ⊢
    exact hmissing.imp_left hnames

/-- Appending columns changes a query. -/
theorem ne_of_appendColumns? (h : appendColumns? q = some q') : q' ≠ q := by
  obtain ⟨s, hs, -, hmissing, rfl⟩ := appendColumns?_eq_some.1 h
  obtain ⟨column, hcolumn, hm⟩ := List.any_eq_true.1 hmissing
  intro heq
  have hselect : q.select? = some (s.withItems (s.items ++ appendedColumns q s)) := by
    rw [← heq]
    exact Query.select?_withBody _ _
  have hitems : s.items ++ appendedColumns q s = s.items := by
    rw [hs, Option.some.injEq] at hselect
    have := congrArg Select.items hselect
    rw [Select.items_withItems] at this
    exact this.symm
  have hnil : appendedColumns q s = [] := List.append_right_eq_self.1 hitems
  exact absurd (mem_appendedColumns.2 ⟨hcolumn, hm⟩) (by simp [hnil])

/-- The query with its columns appended, if that is asked for. -/
def appended (append : Bool) (q : Query) : Query :=
  if append then (appendColumns? q).getD q else q

theorem appended_eq_self (h : append = true → appendColumns? q = none) : appended append q = q := by
  cases append with
  | false => rfl
  | true => rw [appended, if_pos rfl, h rfl, Option.getD_none]

theorem appendColumns?_appended_true : appendColumns? (appended true q) = none := by
  show appendColumns? ((appendColumns? q).getD q) = none
  cases happend : appendColumns? q with
  | none => exact happend
  | some q' => exact appendColumns?_appended happend

/-- Limiting does not touch what appending looks at. -/
theorem appendColumns?_limited : appendColumns? (limited ceiling q) = none
    ↔ appendColumns? q = none := by
  rcases limited_cases ceiling q with ⟨heq, -⟩ | heq
  · rw [heq]
  · rw [heq, appendColumns?_eq_none, appendColumns?_eq_none]
    exact Iff.rfl

/-- The columns that are appended are nodes of the query. -/
theorem mem_nodes_of_mem_referencedColumns {c : SyntaxTree} (hs : q.select? = some s)
    (hc : c ∈ referencedColumns q s) : c ∈ q.toTree.nodes := by
  rcases List.mem_append.1 (distinctBy_subset hc) with hc | hc
  · have hcondition : c ∈ s.condition.nodes :=
      mem_nodes_of_mem_outerNodes (List.mem_filter.1 (distinctBy_subset hc)).1
    exact mem_nodes_of_mem_part (Query.select_mem_clauses hs)
      (mem_nodes_of_mem_part s.condition_mem_clauses hcondition)
  · have horder : c ∈ q.orderBy.nodes :=
      mem_nodes_of_mem_outerNodes (List.mem_filter.1 (distinctBy_subset hc)).1
    exact mem_nodes_of_mem_part q.orderBy_mem_clauses horder

theorem mem_exprs_of_withItems {n : SyntaxTree} (hs : q.select? = some s)
    (h : n ∈ (s.withItems (s.items ++ appendedColumns q s)).toTree.exprs) :
    n ∈ q.toTree.exprs := by
  have hselect : ∀ p ∈ s.clauses, n ∈ p.exprs → n ∈ q.toTree.exprs := fun p hp hn =>
    mem_exprs_of_mem_part (Query.select_mem_clauses hs) (mem_exprs_of_mem_part hp hn)
  obtain ⟨p, hp, hn⟩ := mem_exprs_clause.1 h
  have hset : p ∈ s.clauses.set 2 (.clause .projection (s.items ++ appendedColumns q s)) := hp
  -- only the `SELECT` list is another, and what it has more are columns of the query
  rcases List.mem_or_eq_of_mem_set hset with hp | rfl
  · exact hselect p hp hn
  · obtain ⟨item, hitem, hn⟩ := mem_exprs_clause.1 hn
    rcases List.mem_append.1 hitem with hitem | hitem
    · exact hselect _ s.projection_mem_clauses (mem_exprs_of_mem_part hitem hn)
    · obtain ⟨hnode, hexpr⟩ := List.mem_filter.1 hn
      have hcolumn := mem_nodes_of_mem_referencedColumns hs (mem_appendedColumns.1 hitem).1
      exact List.mem_filter.2 ⟨mem_nodes_trans hcolumn hnode, hexpr⟩

/-- Appending columns brings no new expressions. -/
theorem mem_exprs_of_appended {n : SyntaxTree} (h : n ∈ (appended append q).toTree.exprs) :
    n ∈ q.toTree.exprs := by
  cases append with
  | false => exact h
  | true =>
    rw [appended, if_pos rfl] at h
    cases happend : appendColumns? q with
    | none =>
      rw [happend] at h
      exact h
    | some q' =>
      rw [happend, Option.getD_some] at h
      obtain ⟨s, hs, -, -, rfl⟩ := appendColumns?_eq_some.1 happend
      obtain ⟨p, hp, hn⟩ := mem_exprs_clause.1 h
      have hset : p ∈ q.clauses.set 1 (s.withItems (s.items ++ appendedColumns q s)).toTree := hp
      rcases List.mem_or_eq_of_mem_set hset with hp | rfl
      · exact mem_exprs_of_mem_part hp hn
      · exact mem_exprs_of_withItems hs hn

end MetricQuery.Correction
