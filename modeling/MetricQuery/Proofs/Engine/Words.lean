import MetricQuery.Proofs.Engine.Settled
import MetricQuery.Proofs.Sql.Respelling

/-!
# Words — rewording as a change of every node

Rewording fails only where a formula cannot be read. Where it succeeds it is a change of every node,
provided that each formula has been read back as the tree that it is the text of. The change does
not look at the names of columns: the reworded forms of respelled trees respell each other.
-/

namespace MetricQuery.Engine

open MetricQuery.Sql MetricQuery.Sql.SyntaxTree MetricQuery.Text

variable {e : Engine} {t t' : SyntaxTree} {P : String → String → Prop}

/-! ## Rewording as a change -/

/-- A node in the words of the engine, its parts being reworded: the formula of a date difference
that the engine has one for, and any other call under the engine's name. -/
def wordNode (e : Engine) (t : SyntaxTree) : SyntaxTree :=
  ((DateDifference.ofTree? t).bind e.formulaTree?).getD ((t.renameCall? e.functionName?).getD t)

theorem eq_wordNode_of_rewordNode (h : e.rewordNode t = .ok t')
    (hback : ∀ x, (DateDifference.ofTree? t).bind e.formulaTree? = some x →
      parseExpr x.render = .ok t' → t' = x) : t' = e.wordNode t := by
  unfold rewordNode at h
  unfold wordNode
  rw [formulaText?_eq] at h
  cases hx : (DateDifference.ofTree? t).bind e.formulaTree? with
  | none =>
    rw [hx] at h
    exact (Except.ok.inj h).symm
  | some x =>
    rw [hx] at h
    exact hback x hx h

/-- What a tree is reworded to, once the formulas in it are read back. -/
theorem eq_mapNodes_of_rewords (hback : e.ReadsFormulasBack t) (h : e.Rewords t t') :
    t' = t.mapNodes e.wordNode := by
  induction t using SyntaxTree.induction generalizing t' with
  | node form parts ih =>
    obtain ⟨parts', hparts, hnode⟩ := rewords_node.1 h
    have hmem := (List.forall₂_and_left parts parts').2 ⟨fun p (hp : p ∈ parts) => hp, hparts⟩
    have hmap : List.Forall₂ (fun p p' => p.mapNodes e.wordNode = p') parts parts' :=
      hmem.imp fun p p' hp => (ih p hp.1 (hback.part hp.1) hp.2).symm
    rw [← List.forall₂_map_left_iff, List.forall₂_eq_eq_eq] at hmap
    rw [mapNodes_node, hmap]
    refine eq_wordNode_of_rewordNode hnode fun x hx hparse => ?_
    obtain ⟨hexpr, hmet⟩ := formulaMet?_of_rewords hparts hx
    exact hback _ hexpr x hmet t' hparse

/-- What can be reworded as a part of a tree can be reworded by itself. -/
theorem Rewords.node {n : SyntaxTree} (hback : e.ReadsFormulasBack t) (h : e.Rewords t t')
    (hn : n ∈ t.nodes) : e.Rewords n (n.mapNodes e.wordNode) := by
  induction t using SyntaxTree.induction generalizing t' with
  | node form parts ih =>
    rw [nodes_node, List.mem_cons, List.mem_flatMap] at hn
    rcases hn with rfl | ⟨p, hp, hn⟩
    · rw [← eq_mapNodes_of_rewords hback h]
      exact h
    · obtain ⟨parts', hparts, -⟩ := rewords_node.1 h
      obtain ⟨p', -, hp'⟩ := exists_mem_of_forall₂ hparts.flip hp
      exact ih p hp (hback.part hp) hp' hn

/-! ## Respelled trees -/

theorem isArgumentClause_of_respells (h : t.Respells P t') :
    isArgumentClause t'.form = isArgumentClause t.form := by
  rcases h.form.cases with ⟨heq, -⟩ | ⟨_, _, _, heq, heq', -⟩
  · rw [heq]
  · rw [heq, heq']
    rfl

/-- Calls of respelled arguments have respelled arguments. -/
theorem plainArguments?_of_respells (h : t.Respells P t') {args : List SyntaxTree}
    (hargs : DateDifference.plainArguments? t = some args) :
    ∃ args', DateDifference.plainArguments? t' = some args'
      ∧ List.Forall₂ (Respells P) args args' := by
  unfold DateDifference.plainArguments? at hargs
  split at hargs
  · next name nulls braces first unique parts rest =>
    simp only at hargs
    split at hargs
    · next hall =>
      obtain rfl := Option.some.inj hargs
      obtain ⟨_, _, rfl, hform, hparts⟩ := respells_node.1 h
      obtain rfl := hform
      -- the second part is the clause of the arguments on the other side too
      obtain ⟨first', _, -, htail, rfl⟩ := List.forall₂_cons_left_iff.1 hparts
      obtain ⟨_, rest', harguments, -, rfl⟩ := List.forall₂_cons_left_iff.1 htail
      obtain ⟨parts', hown, rfl⟩ := (clausewise_respells P _ _ _).1 harguments
      have hfilter : List.Forall₂ (Respells P)
          (parts.filter fun p => !isArgumentClause p.form)
          (parts'.filter fun p => !isArgumentClause p.form) := by
        refine List.rel_filter (fun p p' hp => ?_) hown
        simp only [isArgumentClause_of_respells hp]
      have hall' : (parts'.filter fun p => !isArgumentClause p.form).all isExpr = true := by
        rw [List.all_eq_true] at hall ⊢
        intro p' hp'
        obtain ⟨p, hp, hrespells⟩ := exists_mem_of_forall₂ hfilter hp'
        rw [hrespells.isExpr_eq]
        exact hall p hp
      refine ⟨_, ?_, hfilter⟩
      exact if_pos hall'
    · cases hargs
  · cases hargs

/-- Respelling columns leaves all calls their names. -/
theorem callName?_of_respells (h : t.Respells P t') : t'.callName? = t.callName? := by
  obtain ⟨form, parts⟩ := t
  obtain ⟨_, parts', rfl, hform, -⟩ := respells_node.1 h
  rcases hform.cases with ⟨rfl, -⟩ | ⟨_, _, _, rfl, rfl, -⟩
  · unfold callName?
    split
    · next heq => rw [(node.inj heq).1]
    · next hno =>
      split
      · next heq => exact absurd (congrArg (SyntaxTree.node · parts') (node.inj heq).1) (hno _ _ _ _)
      · rfl
  · rfl

theorem functionName?_eq_map (t : SyntaxTree) : t.functionName? = t.callName?.map lower := by
  obtain ⟨form, parts⟩ := t
  cases form with
  | clause form => rfl
  | expr form => cases form <;> rfl

/-- The dates of a respelled date difference are respelled. -/
theorem ofTree?_of_respells (h : t.Respells P t') {d : DateDifference}
    (hd : DateDifference.ofTree? t = some d) :
    ∃ d', DateDifference.ofTree? t' = some d' ∧ d'.unit = d.unit
      ∧ d.start.Respells P d'.start ∧ d.stop.Respells P d'.stop := by
  unfold DateDifference.ofTree? at hd
  split at hd
  · next hname =>
    split at hd
    · next unit start stop hargs =>
      obtain ⟨unit', hunit, rfl⟩ := Option.map_eq_some_iff.1 hd
      obtain ⟨args', hargs', hrespells⟩ := plainArguments?_of_respells h hargs
      -- the unit is a literal and stays the same; the two dates behind it are respelled
      obtain ⟨text', _, htext, hdates, rfl⟩ := List.forall₂_cons_left_iff.1 hrespells
      obtain ⟨start', _, hstart, hlast, rfl⟩ := List.forall₂_cons_left_iff.1 hdates
      obtain ⟨stop', _, hstop, hnil, rfl⟩ := List.forall₂_cons_left_iff.1 hlast
      obtain rfl := List.forall₂_nil_left_iff.1 hnil
      obtain ⟨_, _, rfl, hform, hparts⟩ := respells_node.1 htext
      obtain rfl := hform
      obtain rfl := List.forall₂_nil_left_iff.1 hparts
      refine ⟨⟨unit', start', stop'⟩, ?_, rfl, hstart, hstop⟩
      unfold DateDifference.ofTree?
      rw [functionName?_eq_map, callName?_of_respells h, ← functionName?_eq_map, if_pos hname, hargs']
      simp only [hunit, Option.map_some]
    · cases hd
  · cases hd

theorem respells_callTree (name : String) {args args' : List SyntaxTree}
    (h : List.Forall₂ (Respells P) args args') :
    (callTree name args).Respells P (callTree name args') := by
  have habsent : Respells P absent absent := (clausewise_respells P _ _ _).2 ⟨[], .nil, rfl⟩
  have harguments : Respells P (.clause (.arguments none) args) (.clause (.arguments none) args') :=
    (clausewise_respells P _ _ _).2 ⟨_, h, rfl⟩
  exact .node rfl (.cons habsent (.cons harguments (.cons habsent (.cons habsent .nil))))

/-- The formula of respelled dates is respelled. -/
theorem formulaTree?_of_respells {d d' : DateDifference} (hunit : d'.unit = d.unit)
    (hstart : d.start.Respells P d'.start) (hstop : d.stop.Respells P d'.stop)
    {x : SyntaxTree} (hx : e.formulaTree? d = some x) :
    ∃ x', e.formulaTree? d' = some x' ∧ x.Respells P x' := by
  have hliteral : ∀ value, Respells P (.expr (.literal value) []) (.expr (.literal value) []) :=
    fun value => .node rfl .nil
  have hdays : (callTree "DATEDIFF" [d.stop, d.start]).Respells P
      (callTree "DATEDIFF" [d'.stop, d'.start]) :=
    respells_callTree _ (.cons hstop (.cons hstart .nil))
  have hmonth : ∀ date date' : SyntaxTree, date.Respells P date' →
      (callTree "DATE_FORMAT" [date, textTree "%Y%m"]).Respells P
        (callTree "DATE_FORMAT" [date', textTree "%Y%m"]) := fun date date' h =>
    respells_callTree _ (.cons h (.cons (hliteral _) .nil))
  have hyear : ∀ date date' : SyntaxTree, date.Respells P date' →
      (callTree "YEAR" [date]).Respells P (callTree "YEAR" [date']) := fun date date' h =>
    respells_callTree _ (.cons h .nil)
  -- only one engine has formulas, and the same unit gives the same formula on both sides
  obtain rfl := eq_mysql_of_formulaTree? hx
  obtain ⟨unit, start, stop⟩ := d
  obtain ⟨unit', start', stop'⟩ := d'
  obtain rfl : unit = unit' := hunit.symm
  cases unit with
  | day =>
    obtain rfl := Option.some.inj hx
    exact ⟨_, rfl, hdays⟩
  | week =>
    obtain rfl := Option.some.inj hx
    exact ⟨_, rfl, .node rfl (.cons (.node rfl (.cons hdays (.cons (hliteral _) .nil))) .nil)⟩
  | month =>
    obtain rfl := Option.some.inj hx
    refine ⟨_, rfl, respells_callTree _ (.cons ?_ (.cons ?_ .nil))⟩
    · exact hmonth _ _ hstop
    · exact hmonth _ _ hstart
  | year =>
    obtain rfl := Option.some.inj hx
    refine ⟨_, rfl, .node rfl (.cons (.node rfl (.cons ?_ (.cons ?_ .nil))) .nil)⟩
    · exact hyear _ _ hstop
    · exact hyear _ _ hstart

theorem formula?_of_respells (h : t.Respells P t') {x : SyntaxTree}
    (hx : (DateDifference.ofTree? t).bind e.formulaTree? = some x) :
    ∃ x', (DateDifference.ofTree? t').bind e.formulaTree? = some x' ∧ x.Respells P x' := by
  obtain ⟨d, hd, hformula⟩ := Option.bind_eq_some_iff.1 hx
  obtain ⟨d', hd', hunit, hstart, hstop⟩ := ofTree?_of_respells h hd
  obtain ⟨x', hformula', hrespells⟩ := formulaTree?_of_respells hunit hstart hstop hformula
  exact ⟨x', Option.bind_eq_some_iff.2 ⟨d', hd', hformula'⟩, hrespells⟩

theorem respells_withCallName (name : String) (h : t.Respells P t') :
    (t.withCallName name).Respells P (t'.withCallName name) := by
  obtain ⟨form, parts⟩ := t
  obtain ⟨_, parts', rfl, hform, hparts⟩ := respells_node.1 h
  rcases hform.cases with ⟨rfl, -⟩ | ⟨_, _, _, rfl, rfl, -⟩
  · unfold withCallName
    split
    · next heq =>
      obtain ⟨rfl, rfl⟩ := node.inj heq
      exact .node rfl hparts
    · next hno =>
      split
      · next heq => exact absurd (congrArg (SyntaxTree.node · parts) (node.inj heq).1) (hno _ _ _ _)
      · exact h
  · exact h

theorem respells_renameCall? (h : t.Respells P t') :
    ((t.renameCall? e.functionName?).getD t).Respells P
      ((t'.renameCall? e.functionName?).getD t') := by
  unfold renameCall?
  rw [callName?_of_respells h]
  cases t.callName? with
  | none => exact h
  | some current =>
    dsimp only
    cases e.functionName? current with
    | none => exact h
    | some name =>
      dsimp only
      by_cases hsame : name = current
      · rw [if_pos hsame, if_pos hsame]
        exact h
      · rw [if_neg hsame, if_neg hsame]
        exact respells_withCallName name h

/-- A node in the words of the engine is respelled as the node is. -/
theorem respells_wordNode (h : t.Respells P t') : (e.wordNode t).Respells P (e.wordNode t') := by
  unfold wordNode
  cases hx : (DateDifference.ofTree? t).bind e.formulaTree? with
  | some x =>
    obtain ⟨x', hx', hrespells⟩ := formula?_of_respells h hx
    rw [hx']
    exact hrespells
  | none =>
    -- a formula on the other side would give one on this side, since respelling goes both ways
    have hnone : (DateDifference.ofTree? t').bind e.formulaTree? = none := by
      refine Option.eq_none_iff_forall_ne_some.2 fun x' hx' => ?_
      obtain ⟨x, hx'', -⟩ := formula?_of_respells h.flip hx'
      rw [hx] at hx''
      cases hx''
    rw [hnone]
    exact respells_renameCall? h

/-- Respelled trees that can both be reworded are respelled in the words of the engine. -/
theorem Rewords.respells {u u' : SyntaxTree} (hback : e.ReadsFormulasBack t)
    (hback' : e.ReadsFormulasBack t') (h : t.Respells P t') (hu : e.Rewords t u)
    (hu' : e.Rewords t' u') : u.Respells P u' := by
  rw [eq_mapNodes_of_rewords hback hu, eq_mapNodes_of_rewords hback' hu']
  exact h.mapNodes fun _ _ => respells_wordNode

end MetricQuery.Engine
