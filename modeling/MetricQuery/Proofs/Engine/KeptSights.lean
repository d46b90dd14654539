import MetricQuery.Proofs.Engine.Settled
import MetricQuery.Proofs.Sql.Sights

/-!
# Kept sights — what a tree shows before and after rewording

Rewording moves the dates of a date difference around and gives functions other names, but no column
and no aggregate call appears or disappears, as long as a date difference has nothing but its dates
to show.
-/

namespace MetricQuery.Engine

open MetricQuery.Sql MetricQuery.Sql.SyntaxTree MetricQuery.Text

/-! ## Names of functions -/

theorem functionName?_congr (e : Engine) {a b : String} (h : upper a = upper b) :
    e.functionName? a = e.functionName? b := by
  unfold functionName?
  rw [h]

/-- No engine has another name for an aggregate function. -/
theorem functionName?_of_aggregate (e : Engine) {function : String}
    (h : lower function ∈ aggregateFunctions) : e.functionName? function = none := by
  have hletters : aggregateFunctions.all (fun name => name.toList.all fun c =>
      c.toNat < 0x80 ∧ c ≠ 'k') = true := by
    decide
  simp only [List.all_eq_true, decide_eq_true_eq] at hletters
  have hupper : upper function = upper (lower function) :=
    (upper_lower_of_isAscii (isAscii_of_lower (hletters _ h))).symm
  have hnone : ∀ name ∈ aggregateFunctions, e.functionName? name = none := by
    cases e <;> decide +kernel
  rw [e.functionName?_congr hupper]
  exact hnone _ h

/-- No engine calls a function by the name of an aggregate function. -/
theorem not_aggregate_of_functionName? {e : Engine} {function name : String}
    (h : e.functionName? function = some name) : lower name ∉ aggregateFunctions := by
  unfold functionName? at h
  split at h <;> cases h <;> decide +kernel

/-- What gets another name shows no aggregate call, before and after. -/
theorem sight?_of_functionName? {e : Engine} {name : List Ident} {new : String}
    (h : e.functionName? (renderPath name) = some new) (nulls : Option NullTreatment)
    (braces : Bool) : sight? (.expr (.call name nulls braces)) = none
      ∧ sight? (.expr (.call [.plain new] nulls braces)) = none := by
  constructor
  · refine sight?_call_eq_none fun hmem => ?_
    rw [e.functionName?_of_aggregate hmem] at h
    cases h
  · refine sight?_call_eq_none ?_
    rw [renderPath_plain]
    exact not_aggregate_of_functionName? h

/-! ## Plain date differences -/

/-- What a call has besides its arguments proper: its parameters, its window and the order of its
groups, and the clauses behind the arguments. -/
def besideArguments : SyntaxTree → List SyntaxTree
  | .node (.expr (.call _ _ _)) (parameters :: .node (.clause (.arguments _)) args :: rest) =>
    parameters :: rest ++ args.filter fun p => isArgumentClause p.form
  | _ => []

/-- Whether the date differences of a tree are plain calls, which hold expressions among their
arguments only. -/
def PlainDateDifferences (t : SyntaxTree) : Prop :=
  ∀ n ∈ t.exprs, n.functionName? = some "datediff" → ∀ p ∈ besideArguments n, p.exprs = []

instance (t : SyntaxTree) : Decidable (PlainDateDifferences t) :=
  inferInstanceAs (Decidable (∀ n ∈ t.exprs, n.functionName? = some "datediff" →
    ∀ p ∈ besideArguments n, p.exprs = []))

theorem PlainDateDifferences.part {form : Form} {parts : List SyntaxTree} {p : SyntaxTree}
    (h : PlainDateDifferences (.node form parts)) (hp : p ∈ parts) : PlainDateDifferences p :=
  fun n hn => h n (mem_exprs_of_mem_part hp hn)

variable {e : Engine} {t t' : SyntaxTree} {enters : Form → Bool} {s : Sight}

/-! ## Rewording -/

/-- Rewording leaves a tree without expressions as it is. -/
theorem Rewords.eq_of_exprs (hexprs : t.exprs = []) (h : e.Rewords t t') : t' = t := by
  induction t using SyntaxTree.induction generalizing t' with
  | node form parts ih =>
    obtain ⟨⟨form, rfl⟩, hnil⟩ := exprs_node_eq_nil.1 hexprs
    obtain ⟨parts', hparts, rfl⟩ := rewords_clause.1 h
    have hmem := (List.forall₂_and_left parts parts').2 ⟨fun p (hp : p ∈ parts) => hp, hparts⟩
    have heq : List.Forall₂ Eq parts parts' :=
      hmem.imp fun p _ hp => (ih p hp.1 (hnil p hp.1) hp.2).symm
    rw [List.forall₂_eq_eq_eq] at heq
    rw [heq]

theorem Rewords.not_shows (hexprs : t.exprs = []) (h : e.Rewords t t') : ¬ Shows enters s t' := by
  rw [h.eq_of_exprs hexprs]
  exact not_shows_of_exprs hexprs

/-- Rewording keeps clauses where they are, and expressions expressions. -/
theorem Rewords.form_eq_clause (hback : e.ReadsFormulasBack t) (h : e.Rewords t t')
    {form : ClauseForm} : t'.form = .clause form ↔ t.form = .clause form := by
  obtain ⟨own, parts⟩ := t
  obtain ⟨parts', -, hcases⟩ := h.cases hback
  rcases hcases with ⟨rfl, -⟩ | ⟨name, nulls, braces, new, rfl, -, rfl⟩ | ⟨d, hd, hx⟩
  · exact Iff.rfl
  · exact ⟨fun h => (nomatch h), fun h => (nomatch h)⟩
  · obtain ⟨_, _, _, _, _, _, _, _, heq, -⟩ := ofTree?_eq_some hd
    obtain ⟨rfl, -⟩ := node.inj heq
    unfold formulaTree? at hx
    refine ⟨fun hform => ?_, fun hform => (nomatch hform)⟩
    split at hx <;> cases hx <;> cases hform

/-- The formula of a date difference shows what the two dates show. -/
theorem shows_formulaTree? (hexprs : ∀ form, enters (.expr form) = true)
    (harguments : ∀ unique, enters (.clause (.arguments unique)) = true)
    {d : DateDifference} {x : SyntaxTree} (hx : e.formulaTree? d = some x) :
    Shows enters s x ↔ Shows enters s d.start ∨ Shows enters s d.stop := by
  have habsent : ¬ Shows enters s absent := not_shows_of_exprs rfl
  -- the functions of a formula are no aggregates, so that a call shows what its arguments show
  have hcall : ∀ {name : String}, name ∈ formulaFunctions → ∀ args,
      Shows enters s (callTree name args) ↔ ∃ a ∈ args, Shows enters s a := by
    intro name hname args
    have hsight : sight? (.expr (.call [.plain name] none false)) = none := by
      refine sight?_call_eq_none ?_
      rw [renderPath_plain]
      exact not_aggregate_of_mem_formulaFunctions hname
    have hargs : Shows enters s (.clause (.arguments none) args)
        ↔ ∃ a ∈ args, Shows enters s a := by
      rw [shows_node]
      simp [harguments, sight?]
    rw [callTree, shows_node]
    simp [hexprs, hsight, habsent, hargs]
  have hdays : Shows enters s (callTree "DATEDIFF" [d.stop, d.start])
      ↔ ∃ a ∈ [d.stop, d.start], Shows enters s a := hcall (by simp [formulaFunctions]) _
  have hdate : ∀ date, Shows enters s (callTree "DATE_FORMAT" [date, textTree "%Y%m"])
      ↔ Shows enters s date := by
    intro date
    rw [hcall (by simp [formulaFunctions])]
    simp [textTree, not_shows_literal]
  have hyear : ∀ date, Shows enters s (callTree "YEAR" [date]) ↔ Shows enters s date := by
    intro date
    rw [hcall (by simp [formulaFunctions])]
    simp
  -- days, weeks, months and years; the other two cases have no formula
  unfold formulaTree? at hx
  split at hx
  · cases hx
    rw [hdays]
    simp [or_comm]
  · cases hx
    rw [shows_node]
    simp only [hexprs, sight?, List.mem_singleton, exists_eq_left, true_and, shows_node]
    simp [hdays, numberTree, not_shows_literal, or_comm]
  · cases hx
    rw [hcall (by simp [formulaFunctions])]
    simp [hdate, or_comm]
  · cases hx
    rw [shows_node]
    simp only [hexprs, sight?, List.mem_singleton, exists_eq_left, true_and]
    rw [shows_node]
    simp [hexprs, sight?, hyear, or_comm]
  · cases hx
  · cases hx

theorem exists_clause_of_isArgumentClause {form : Form} (h : isArgumentClause form = true) :
    ∃ clauseForm, form = .clause clauseForm := by
  cases form with
  | expr form => cases h
  | clause form => exact ⟨form, rfl⟩

/-- The reworded arguments of a date difference show what the two dates show, if no clause behind
them shows anything. -/
theorem shows_dateArguments (harguments : ∀ unique, enters (.clause (.arguments unique)) = true)
    {unique : Option Bool} {args args' : List SyntaxTree} {unit : String} {d : DateDifference}
    (hback : e.ReadsFormulasBack (.clause (.arguments unique) args))
    (hplain : ∀ a ∈ args.filter (fun p => isArgumentClause p.form), a.exprs = [])
    (hrewords : List.Forall₂ e.Rewords args args')
    (hargs : args'.filter (fun p => !isArgumentClause p.form) = [textTree unit, d.start, d.stop]) :
    Shows enters s (.clause (.arguments unique) args')
      ↔ Shows enters s d.start ∨ Shows enters s d.stop := by
  have hclause : ∀ a' ∈ args', isArgumentClause a'.form = true → ¬ Shows enters s a' := by
    intro a' ha' hbehind
    -- what is such a clause now was one before
    obtain ⟨a, ha, h⟩ := exists_mem_of_forall₂ hrewords ha'
    obtain ⟨clauseForm, hform⟩ := exists_clause_of_isArgumentClause hbehind
    have hsame : a.form = .clause clauseForm := (h.form_eq_clause (hback.part ha)).1 hform
    rw [hform, ← hsame] at hbehind
    exact h.not_shows (hplain a (List.mem_filter.2 ⟨ha, hbehind⟩))
  have hmem : ∀ a' ∈ [textTree unit, d.start, d.stop], a' ∈ args' := fun a' ha' =>
    (List.mem_filter.1 (hargs ▸ ha')).1
  rw [shows_node]
  constructor
  · rintro ⟨-, h | ⟨a', ha', hshows⟩⟩
    · cases h
    · have hproper : a' ∈ [textTree unit, d.start, d.stop] := by
        rw [← hargs]
        refine List.mem_filter.2 ⟨ha', ?_⟩
        rw [Bool.not_eq_true', ← Bool.not_eq_true]
        exact fun hbehind => hclause a' ha' hbehind hshows
      simp only [List.mem_cons, List.not_mem_nil, or_false] at hproper
      rcases hproper with rfl | rfl | rfl
      · exact absurd hshows (not_shows_literal _)
      · exact .inl hshows
      · exact .inr hshows
  · rintro (hshows | hshows)
    · exact ⟨harguments _, .inr ⟨d.start, hmem _ (by simp), hshows⟩⟩
    · exact ⟨harguments _, .inr ⟨d.stop, hmem _ (by simp), hshows⟩⟩

/-- Of the reworded parts of a plain date difference only the two dates show anything. -/
theorem exists_shows_dateParts (harguments : ∀ unique, enters (.clause (.arguments unique)) = true)
    {name : List Ident} {nulls : Option NullTreatment} {braces : Bool} {unique : Option Bool}
    {parts args' rest' : List SyntaxTree} {parameters' : SyntaxTree} {unit : String}
    {d : DateDifference}
    (hback : e.ReadsFormulasBack (.expr (.call name nulls braces) parts))
    (hplain : ∀ p ∈ besideArguments (.expr (.call name nulls braces) parts), p.exprs = [])
    (hparts : List.Forall₂ e.Rewords parts
      (parameters' :: .clause (.arguments unique) args' :: rest'))
    (hargs : args'.filter (fun p => !isArgumentClause p.form) = [textTree unit, d.start, d.stop]) :
    (∃ p' ∈ parameters' :: .clause (.arguments unique) args' :: rest', Shows enters s p')
      ↔ Shows enters s d.start ∨ Shows enters s d.stop := by
  obtain ⟨parameters, _, hparameters, htail, rfl⟩ := List.forall₂_cons_right_iff.1 hparts
  obtain ⟨⟨form, args⟩, rest, harg, hrest, rfl⟩ := List.forall₂_cons_right_iff.1 htail
  obtain rfl : form = .clause (.arguments unique) :=
    (harg.form_eq_clause (hback.part (by simp))).1 rfl
  obtain ⟨_, hrewords, heq⟩ := rewords_clause.1 harg
  obtain rfl := (node.inj heq).2
  -- what stands beside the dates has no expression in it, so that only the dates are left to show
  have hbeside : ∀ p ∈ parameters :: rest ++ args.filter fun p => isArgumentClause p.form,
      p.exprs = [] := hplain
  have hfirst : ¬ Shows enters s parameters' := hparameters.not_shows (hbeside _ (by simp))
  have hlast : ¬ ∃ p' ∈ rest', Shows enters s p' := by
    rintro ⟨p', hp', hshows⟩
    obtain ⟨p, hp, h⟩ := exists_mem_of_forall₂ hrest hp'
    exact h.not_shows (hbeside p (by simp [hp])) hshows
  rw [List.exists_mem_cons_iff, List.exists_mem_cons_iff, or_iff_right hfirst, or_iff_left hlast]
  exact shows_dateArguments harguments (hback.part (by simp))
    (fun a ha => hbeside a (List.mem_append_right _ ha)) hrewords hargs

/-- Rewording shows nothing new and hides nothing. -/
theorem Rewords.shows_iff (hexprs : ∀ form, enters (.expr form) = true)
    (harguments : ∀ unique, enters (.clause (.arguments unique)) = true)
    (hplain : PlainDateDifferences t) (hback : e.ReadsFormulasBack t) (h : e.Rewords t t') :
    Shows enters s t' ↔ Shows enters s t := by
  induction t using SyntaxTree.induction generalizing t' with
  | node form parts ih =>
    obtain ⟨parts', hparts, hcases⟩ := h.cases hback
    have hiff : (∃ p' ∈ parts', Shows enters s p') ↔ ∃ p ∈ parts, Shows enters s p :=
      exists_mem_iff_of_forall₂ hparts fun p hp p' hp' =>
        ih p hp (hplain.part hp) (hback.part hp) hp'
    rcases hcases with ⟨rfl, -⟩ | ⟨name, nulls, braces, new, rfl, hnew, rfl⟩ | ⟨d, hd, hx⟩
    · rw [shows_node, shows_node, hiff]
    · -- neither the old name nor the new one is that of an aggregate function
      obtain ⟨hold, hnew'⟩ := sight?_of_functionName? hnew nulls braces
      rw [shows_node, shows_node, hiff, hold, hnew', hexprs, hexprs]
    · obtain ⟨name, nulls, braces, parameters', unique, args', rest', unit, heq, hname, hargs, -⟩ :=
        ofTree?_eq_some hd
      obtain ⟨rfl, rfl⟩ := node.inj heq
      have hdatediff : lower (renderPath name) ∉ aggregateFunctions := by
        rw [hname]
        decide
      have hbeside := hplain _ (mem_exprs_self _ _) (congrArg some hname)
      -- the formula shows its two dates, and so did the call
      rw [shows_formulaTree? hexprs harguments hx, shows_node, sight?_call_eq_none hdatediff,
        ← hiff, exists_shows_dateParts harguments hback hbeside hparts hargs]
      simp [hexprs]

/-- Rewording leaves no tree without expressions that had some. -/
theorem Rewords.exprs_eq_nil (hback : e.ReadsFormulasBack t) (h : e.Rewords t t') :
    t'.exprs = [] ↔ t.exprs = [] := by
  induction t using SyntaxTree.induction generalizing t' with
  | node form parts ih =>
    refine ⟨fun hnil => ?_, fun hnil => by rw [h.eq_of_exprs hnil]; exact hnil⟩
    obtain ⟨own, parts₁⟩ := t'
    obtain ⟨⟨form', rfl⟩, hnil'⟩ := exprs_node_eq_nil.1 hnil
    -- a clause is only reworded into a clause of the same form
    obtain rfl : form = .clause form' := (h.form_eq_clause hback).1 rfl
    obtain ⟨parts', hparts, heq⟩ := rewords_clause.1 h
    obtain rfl := (node.inj heq).2
    have hiff : (∃ p' ∈ parts₁, p'.exprs ≠ []) ↔ ∃ p ∈ parts, p.exprs ≠ [] :=
      exists_mem_iff_of_forall₂ hparts fun p hp _ hp' => not_congr (ih p hp (hback.part hp) hp')
    refine exprs_node_eq_nil.2 ⟨⟨form', rfl⟩, fun p hp => ?_⟩
    by_contra hne
    obtain ⟨p', hp', hne'⟩ := hiff.2 ⟨p, hp, hne⟩
    exact hne' (hnil' p' hp')

end MetricQuery.Engine
