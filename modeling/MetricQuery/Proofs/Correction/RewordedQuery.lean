import MetricQuery.Proofs.Correction.Edits
import MetricQuery.Proofs.Engine.KeptNumbers
import MetricQuery.Proofs.Engine.KeptSights

/-!
# Reworded queries — what the edits of a query look at stays

Whether columns may be appended, which names the list has and which names the query filters and
sorts by can all be read off from what the clauses show. Rewording a query changes none of it, and
it leaves the number of the limit: only the spelling by which a name is referred to first may be
another one.
-/

namespace MetricQuery.Correction

open MetricQuery.Text MetricQuery.Sql MetricQuery.Sql.SyntaxTree MetricQuery.Engine

variable {e : Engine} {q q' : Query} {s s' : Select} {name : String}

/-! ## Clause by clause -/

/-- What a `SELECT` and its reworded form have to do with each other. -/
abbrev SelectRewords (e : Engine) (s s' : Select) : Prop :=
  s.Related e.Rewords s'

/-- What has become a `SELECT` was one. -/
theorem exists_select_of_rewords {t : SyntaxTree} (hback : e.ReadsFormulasBack t)
    (h : e.Rewords t s'.toTree) : ∃ s : Select, t = s.toTree := by
  obtain ⟨form, parts⟩ := t
  obtain rfl := (h.form_eq_clause hback).1 rfl
  obtain ⟨_, hparts, heq⟩ := rewords_clause.1 h
  obtain rfl := (node.inj heq).2
  -- the list is the third clause, and twelve more stand behind it
  obtain ⟨distinct, _, -, htop, rfl⟩ := List.forall₂_cons_right_iff.1 hparts
  obtain ⟨top, _, -, hlist, rfl⟩ := List.forall₂_cons_right_iff.1 htop
  obtain ⟨⟨form, items⟩, rest, hprojection, hrest, rfl⟩ := List.forall₂_cons_right_iff.1 hlist
  obtain rfl : form = .clause .projection :=
    (hprojection.form_eq_clause (hback.part (by simp))).1 rfl
  obtain _ | ⟨-, _ | ⟨-, _ | ⟨-, _ | ⟨-, _ | ⟨-, _ | ⟨-, _ | ⟨-, _ | ⟨-, _ | ⟨-, _ | ⟨-, _ | ⟨-,
    _ | ⟨-, _ | _⟩⟩⟩⟩⟩⟩⟩⟩⟩⟩⟩⟩ := hrest
  exact ⟨⟨distinct, top, items, _, _, _, _, _, _, _, _, _, _, _, _, _, _⟩, rfl⟩

/-- What has become a query with a `SELECT` for its body was one. -/
theorem exists_select?_of_rewords (hback : e.ReadsFormulasBack q.toTree)
    (h : e.Rewords q.toTree q'.toTree) (hs' : q'.select? = some s') :
    ∃ s, q.select? = some s ∧ SelectRewords e s s' := by
  have hbody := ((clausewise_rewords e).query h).body
  rw [← Select.toTree_of_ofTree? hs'] at hbody
  obtain ⟨s, hs⟩ := exists_select_of_rewords (hback.part q.body_mem_clauses) hbody
  rw [hs] at hbody
  obtain ⟨s'', heq, hrewords⟩ := (clausewise_rewords e).select hbody
  obtain rfl : s' = s'' := by
    have hread := congrArg Select.ofTree? heq
    rwa [Select.ofTree?_toTree, Select.ofTree?_toTree, Option.some.injEq] at hread
  exact ⟨s, by rw [Query.select?, hs, Select.ofTree?_toTree], hrewords⟩

/-! ## What stays -/

theorem showsName_iff_of_rewords {enters : Form → Bool} {t t' : SyntaxTree}
    (hexprs : ∀ form, enters (.expr form) = true)
    (harguments : ∀ unique, enters (.clause (.arguments unique)) = true)
    (hplain : PlainDateDifferences t) (hback : e.ReadsFormulasBack t) (h : e.Rewords t t') :
    ShowsName enters name t' ↔ ShowsName enters name t :=
  exists_congr fun _ => and_congr_right fun _ => h.shows_iff hexprs harguments hplain hback

theorem isWildcard_iff {item : SyntaxTree} : Select.isWildcard item = true
    ↔ ∃ qualifier options, item.form = .clause (.wildcard qualifier options) := by
  obtain ⟨form, parts⟩ := item
  unfold Select.isWildcard SyntaxTree.form
  split
  · next heq =>
    obtain ⟨rfl, -⟩ := node.inj heq
    simp
  · next hno =>
    refine ⟨fun h => (nomatch h), fun ⟨qualifier, options, h⟩ => ?_⟩
    subst h
    exact absurd rfl (hno _ _ _)

theorem isGrouped_iff : s.isGrouped = true ↔ s.grouping.exprs ≠ [] := by
  simp [Select.isGrouped, SyntaxTree.exprs, List.filter_eq_nil_iff]

theorem callsAggregate_iff :
    s.callsAggregate = true ↔ Shows (fun _ => true) .aggregate s.projection := by
  rw [Select.callsAggregate, List.any_eq_true, Shows, ← exists_mem_nodes_iff]
  simp only [isAggregateCall_iff]

section

variable (h : SelectRewords e s s') (hback : e.ReadsFormulasBack s.toTree)
  (hplain : PlainDateDifferences s.toTree)

include h

theorem SelectRewords.projection : e.Rewords s.projection s'.projection :=
  rewords_clause.2 ⟨_, h.items, rfl⟩

include hback

include hplain

/-- The names of the list are the same. -/
theorem SelectRewords.hasName_fields_iff :
    hasName s'.fields name = true ↔ hasName s.fields name = true := by
  have hlist := hback.part s.projection_mem_clauses
  have hdates := hplain.part s.projection_mem_clauses
  rw [hasName_fields, hasName_fields]
  refine exists_mem_iff_of_forall₂ h.items fun item hitem item' hrewords => or_congr ?_ ?_
  · exact showsName_iff_of_rewords (fun _ => rfl) (fun _ => rfl) (hdates.part hitem)
      (hlist.part hitem) hrewords
  · simp only [DeclaresName, hrewords.form_eq_clause (hlist.part hitem)]

/-- The guards of the appending of columns have the same answers. -/
theorem SelectRewords.takesColumns_eq : takesColumns s' = takesColumns s := by
  have hlist := hback.part s.projection_mem_clauses
  have hwildcard : s'.hasWildcard = s.hasWildcard := by
    rw [Bool.eq_iff_iff, Select.hasWildcard, Select.hasWildcard, List.any_eq_true, List.any_eq_true]
    refine exists_mem_iff_of_forall₂ h.items fun item hitem item' hrewords => ?_
    simp only [isWildcard_iff, hrewords.form_eq_clause (hlist.part hitem)]
  have haggregate : s'.callsAggregate = s.callsAggregate := by
    rw [Bool.eq_iff_iff, callsAggregate_iff, callsAggregate_iff]
    exact h.projection.shows_iff (fun _ => rfl) (fun _ => rfl)
      (hplain.part s.projection_mem_clauses) hlist
  have hgrouped : s'.isGrouped = s.isGrouped := by
    rw [Bool.eq_iff_iff, isGrouped_iff, isGrouped_iff]
    exact not_congr (h.grouping.exprs_eq_nil (hback.part s.grouping_mem_clauses))
  simp only [takesColumns, Select.aggregates, hwildcard, haggregate, hgrouped]

end

/-- The names that a query filters and sorts by are the same. -/
theorem exists_mem_referencedColumns_iff_of_rewords (hback : e.ReadsFormulasBack q.toTree)
    (hplain : PlainDateDifferences q.toTree) (h : e.Rewords q.toTree q'.toTree)
    (hs : q.select? = some s) (hrewords : SelectRewords e s s') :
    (∃ c ∈ referencedColumns q' s', sameName name (referenceName c) = true)
      ↔ ∃ c ∈ referencedColumns q s, sameName name (referenceName c) = true := by
  have hselect := Query.select_mem_clauses hs
  rw [exists_mem_referencedColumns_iff, exists_mem_referencedColumns_iff]
  refine or_congr ?_ ?_
  · exact showsName_iff_of_rewords (fun _ => rfl) (fun _ => rfl)
      ((hplain.part hselect).part s.condition_mem_clauses)
      ((hback.part hselect).part s.condition_mem_clauses) hrewords.condition
  · exact showsName_iff_of_rewords (fun _ => rfl) (fun _ => rfl) (hplain.part q.orderBy_mem_clauses)
      (hback.part q.orderBy_mem_clauses) ((clausewise_rewords e).query h).orderBy

/-! ## A limit that is kept to -/

theorem withinCeiling_of_rewords (ceiling : Nat) (h : e.Rewords q.toTree q'.toTree) :
    withinCeiling ceiling q' = withinCeiling ceiling q := by
  rw [withinCeiling, withinCeiling, limitCount?_of_rewords h]

/-- Queries keep to the ceiling or get the same limit, which has no words of its own. -/
theorem rewords_limited (ceiling : Nat) (h : e.Rewords q.toTree q'.toTree) :
    e.Rewords (limited ceiling q).toTree (limited ceiling q').toTree := by
  rw [limited, limited, limitRows?, limitRows?, withinCeiling_of_rewords ceiling h]
  split
  · exact h
  · have hlimit : e.Rewords (limitClause ceiling) (limitClause ceiling) := by
      refine settled_clause fun p hp => ?_
      obtain rfl := List.mem_singleton.1 hp
      exact settled_node (by simp) rfl
    obtain ⟨_, hclauses, heq⟩ := rewords_clause.1 h
    obtain ⟨hform, rfl⟩ := node.inj heq
    refine rewords_clause.2 ⟨_, ?_, congrArg (SyntaxTree.node · _) hform⟩
    simp only [Query.clauses, List.forall₂_cons] at hclauses ⊢
    exact ⟨hclauses.1, hclauses.2.1, hclauses.2.2.1, hlimit, hclauses.2.2.2.2⟩

end MetricQuery.Correction
