import MetricQuery.Proofs.Correction.FixedPoint
import MetricQuery.Proofs.Sql.Groupings
import MetricQuery.Proofs.Sql.Nodewise

/-!
# Kept tables — no correction changes what a query reads

Corrections work on the `SELECT` list, on the limit and on calls. The `FROM` clause keeps its form,
and the relations in it keep their names. That there is a `FROM` clause, and no expression in its
place, is known of every query that has been read.
-/

namespace MetricQuery

open MetricQuery.Sql MetricQuery.Sql.SyntaxTree

/-- A call may become another expression, but nothing becomes a table that was none. -/
theorem Engine.nodewise_rewords (e : Engine) : Nodewise e.Rewords := by
  rintro ⟨form | form, parts⟩ t' h
  · -- what is read from the text of a formula is an expression
    refine .inr ⟨rfl, ?_⟩
    obtain ⟨parts', -, hnode⟩ := rewords_node.1 h
    by_contra hclause
    have hno : ¬ t'.IsNoNumber := fun hexpr => hclause hexpr.isExpr
    rw [eq_of_rewordNode hnode hno] at hclause
    exact hclause rfl
  · obtain ⟨parts', hparts, rfl⟩ := rewords_clause.1 h
    exact .inl ⟨_, _, _, rfl, rfl, hparts⟩

namespace Correction

variable {engine : Option Engine} {ceiling : UInt64} {append : Bool} {q q' q'' : Query}

/-- Whether a query with a `SELECT` for its body and no expression in the place of `FROM` becomes
such a query, over relations of the same names. -/
def KeepsTables (q q' : Query) : Prop :=
  ∀ s, q.select? = some s → s.sources.isExpr = false →
    ∃ s', q'.select? = some s' ∧ s'.sources.isExpr = false
      ∧ s'.sourceTables.map relationNames = s.sourceTables.map relationNames

theorem KeepsTables.refl (q : Query) : KeepsTables q q :=
  fun s hs hfrom => ⟨s, hs, hfrom, rfl⟩

theorem KeepsTables.trans (h : KeepsTables q q') (h' : KeepsTables q' q'') : KeepsTables q q'' := by
  intro s hs hfrom
  obtain ⟨s', hs', hfrom', hnames⟩ := h s hs hfrom
  obtain ⟨s'', hs'', hfrom'', hnames'⟩ := h' s' hs' hfrom'
  exact ⟨s'', hs'', hfrom'', hnames'.trans hnames⟩

theorem keepsTables_of_rewords {e : Engine} (h : e.Rewords q.toTree q'.toTree) :
    KeepsTables q q' := by
  intro s hs hfrom
  obtain ⟨s', hs', hrelated⟩ := (Engine.clausewise_rewords e).exists_select? h hs
  -- the `FROM` clause is a clause, and no expression is put in its place
  rcases e.nodewise_rewords _ _ hrelated.sources with
    ⟨form, tables, tables', hown, hown', htables⟩ | ⟨hexpr, -⟩
  · refine ⟨s', hs', ?_, ?_⟩
    · rw [hown']
      rw [hown] at hfrom
      exact hfrom
    · refine e.nodewise_rewords.map_relationNames (e.nodewise_rewords.sourceTables ?_)
      rw [hown, hown']
      exact htables
  · rw [hfrom] at hexpr
    cases hexpr

theorem keepsTables_functionNames (engine : Option Engine) (q : Query) :
    KeepsTables q (StandardStage.functionNames.transform engine q) := by
  rcases functionNames_cases engine q with heq | ⟨e, -, hrewords⟩
  · rw [heq]
    exact .refl q
  · exact keepsTables_of_rewords hrewords

theorem keepsTables_appended (append : Bool) (q : Query) : KeepsTables q (appended append q) := by
  cases append with
  | false => exact .refl q
  | true =>
    rw [appended, if_pos rfl]
    cases happend : appendColumns? q with
    | none => exact .refl q
    | some q' =>
      obtain ⟨own, hown, -, -, rfl⟩ := appendColumns?_eq_some.1 happend
      intro s hs hfrom
      obtain rfl : own = s := Option.some.inj (hown.symm.trans hs)
      exact ⟨_, Query.select?_withBody _ _, hfrom, rfl⟩

theorem keepsTables_limited (ceiling : Nat) (q : Query) : KeepsTables q (limited ceiling q) := by
  intro s hs hfrom
  exact ⟨s, (select?_limited _ _).trans hs, hfrom, rfl⟩

theorem keepsTables_corrected (engine : Option Engine) (ceiling : UInt64) (append : Bool)
    (q : Query) : KeepsTables q (corrected engine ceiling append q) :=
  (keepsTables_appended append q).trans <|
    (keepsTables_limited ceiling.toNat _).trans (keepsTables_functionNames engine _)

/-- A query that has been read keeps its relations under their names. -/
theorem KeepsTables.map_relationNames {text : String} {s : Select} (h : KeepsTables q q')
    (hread : Query.parse text = .ok q) (hs : q.select? = some s) :
    q'.relations.map relationNames = q.relations.map relationNames := by
  have hfrom : s.sources.isExpr = false := by
    rcases (selectRead_of_parse hread hs).sources with heq | ⟨tables, heq⟩ <;> rw [heq] <;> rfl
  obtain ⟨s', hs', -, hnames⟩ := h s hs hfrom
  rw [Query.relations, Query.relations, hs, hs']
  exact hnames

end Correction

end MetricQuery
