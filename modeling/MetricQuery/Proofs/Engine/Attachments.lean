import Mathlib.Data.List.Flatten
import Mathlib.Data.List.Perm.Basic
import MetricQuery.Proofs.Engine.Words
import MetricQuery.Proofs.Sql.Paths
import MetricQuery.Proofs.Sql.Walks

/-!
# Attachments — what a date difference loses to its formula

An engine's formula has room for the two dates of a date difference and for nothing else. A window, a
filter or an order of the arguments that is attached to the call goes when the formula comes. Nothing
else is lost: to reword a query is to reword it without these attachments, and after that each part
of it refers to the columns that it has referred to, if in another order.
-/

namespace MetricQuery

open MetricQuery.Sql MetricQuery.Sql.SyntaxTree MetricQuery.Text

namespace Engine

variable {e : Engine} {t : SyntaxTree} {form : Form} {parts : List SyntaxTree}

/-! ## Changes that keep date differences -/

theorem ofTree?_call {name : List Ident} {parameters start stop : SyntaxTree}
    {unique : Option Bool} {args rest : List SyntaxTree} {unit : String}
    (hname : lower (renderPath name) = "datediff")
    (hargs : args.filter (fun p => !isArgumentClause p.form) = [textTree unit, start, stop])
    (hstart : start.isExpr = true) (hstop : stop.isExpr = true) (nulls : Option NullTreatment)
    (braces : Bool) :
    DateDifference.ofTree? (.expr (.call name nulls braces)
        (parameters :: .clause (.arguments unique) args :: rest))
      = (DateUnit.parse? unit).map (⟨·, start, stop⟩) := by
  have hall : [textTree unit, start, stop].all isExpr = true := by
    rw [List.all_cons, List.all_cons, List.all_cons, hstart, hstop]
    rfl
  have hplain : DateDifference.plainArguments? (.expr (.call name nulls braces)
      (parameters :: .clause (.arguments unique) args :: rest))
        = some [textTree unit, start, stop] := by
    unfold DateDifference.plainArguments?
    dsimp only
    rw [hargs, if_pos hall]
  unfold DateDifference.ofTree?
  refine (if_pos (congrArg some hname)).trans ?_
  rw [hplain]
  rfl

theorem ofTree?_eq_some_iff {d : DateDifference} :
    DateDifference.ofTree? t = some d ↔
      ∃ name nulls braces parameters unique args rest unit,
        t = .expr (.call name nulls braces) (parameters :: .clause (.arguments unique) args :: rest)
          ∧ lower (renderPath name) = "datediff"
          ∧ args.filter (fun p => !isArgumentClause p.form) = [textTree unit, d.start, d.stop]
          ∧ d.start.isExpr = true ∧ d.stop.isExpr = true ∧ DateUnit.parse? unit = some d.unit := by
  constructor
  · intro h
    obtain ⟨name, nulls, braces, parameters, unique, args, rest, unit, rfl, hname, hargs, hstart,
      hstop⟩ := ofTree?_eq_some h
    rw [ofTree?_call hname hargs hstart hstop, Option.map_eq_some_iff] at h
    obtain ⟨own, hunit, hown⟩ := h
    have heq : own = d.unit := congrArg DateDifference.unit hown
    exact ⟨name, nulls, braces, parameters, unique, args, rest, unit, rfl, hname, hargs, hstart,
      hstop, by rw [hunit, heq]⟩
  · rintro ⟨name, nulls, braces, parameters, unique, args, rest, unit, rfl, hname, hargs, hstart,
      hstop, hunit⟩
    rw [ofTree?_call hname hargs hstart hstop, hunit]
    rfl

/-- The dates of a date difference are nodes below it. -/
theorem mem_nodes_of_ofTree? {form : Form} {parts : List SyntaxTree} {d : DateDifference}
    (hd : DateDifference.ofTree? (.node form parts) = some d) :
    ∃ p ∈ parts, d.start ∈ p.nodes ∧ d.stop ∈ p.nodes := by
  obtain ⟨_, _, _, _, unique, args, _, _, heq, -, hargs, -⟩ := ofTree?_eq_some hd
  obtain ⟨-, rfl⟩ := node.inj heq
  have hdate : ∀ date ∈ [d.start, d.stop], date ∈ (clause (.arguments unique) args).nodes := by
    intro date hdate
    have hmem : date ∈ args := (List.mem_filter.1 (hargs ▸ List.mem_cons_of_mem _ hdate)).1
    exact mem_nodes_of_mem_part hmem (mem_nodes_self date)
  exact ⟨_, by simp, hdate _ (by simp), hdate _ (by simp)⟩

/-- Whether a change of trees keeps clauses, expressions and texts what they are. -/
structure Keeps (change : SyntaxTree → SyntaxTree) : Prop where
  clause : ∀ form parts, change (.clause form parts) = .clause form (parts.map change)
  isExpr : ∀ t, (change t).isExpr = t.isExpr
  text : ∀ t s, change t = textTree s ↔ t = textTree s

namespace Keeps

variable {change : SyntaxTree → SyntaxTree} (h : Keeps change)

include h

theorem eq_clause {clauseForm : ClauseForm} {parts' : List SyntaxTree}
    (ht : change t = .clause clauseForm parts') :
    ∃ parts, t = .clause clauseForm parts ∧ parts' = parts.map change := by
  obtain ⟨form | form, parts⟩ := t
  · have hexpr := h.isExpr (.expr form parts)
    rw [ht] at hexpr
    cases hexpr
  · rw [h.clause] at ht
    obtain ⟨hform, rfl⟩ := node.inj ht
    exact ⟨parts, congrArg (SyntaxTree.node · parts) hform, rfl⟩

theorem form_eq_clause {clauseForm : ClauseForm} :
    (change t).form = .clause clauseForm ↔ t.form = .clause clauseForm := by
  obtain ⟨form | form, parts⟩ := t
  · have hexpr := h.isExpr (.expr form parts)
    refine ⟨fun ht => ?_, nofun⟩
    rw [SyntaxTree.isExpr, ht] at hexpr
    cases hexpr
  · rw [h.clause]
    exact Iff.rfl

theorem isArgumentClause_form (t : SyntaxTree) :
    isArgumentClause (change t).form = isArgumentClause t.form := by
  obtain ⟨form | form, parts⟩ := t
  · rw [isArgumentClause_of_isExpr (h.isExpr _)]
    rfl
  · rw [h.clause]
    rfl

theorem filter_map (args : List SyntaxTree) :
    (args.map change).filter (fun p => !isArgumentClause p.form)
      = (args.filter fun p => !isArgumentClause p.form).map change := by
  rw [List.filter_map]
  congr 1
  refine List.filter_congr fun p _ => ?_
  rw [Function.comp_apply, h.isArgumentClause_form]

theorem ofTree?_node (form : Form) (parts : List SyntaxTree) :
    DateDifference.ofTree? (.node form (parts.map change))
      = (DateDifference.ofTree? (.node form parts)).map
        fun d => ⟨d.unit, change d.start, change d.stop⟩ := by
  ext d'
  rw [Option.map_eq_some_iff, ofTree?_eq_some_iff]
  constructor
  · rintro ⟨name, nulls, braces, _, unique, args', _, unit, heq, hname, hargs, hstart, hstop, hunit⟩
    obtain ⟨rfl, hparts⟩ := node.inj heq
    obtain ⟨parameters, tail, rfl, -, htail⟩ := List.map_eq_cons_iff.1 hparts
    obtain ⟨arguments, rest, rfl, harguments, -⟩ := List.map_eq_cons_iff.1 htail
    obtain ⟨args, rfl, rfl⟩ := h.eq_clause harguments
    -- the three arguments are those that there were
    rw [h.filter_map] at hargs
    obtain ⟨first, more, hfilter, hfirst, hmore⟩ := List.map_eq_cons_iff.1 hargs
    obtain ⟨start, last, rfl, hstart', hlast⟩ := List.map_eq_cons_iff.1 hmore
    obtain ⟨stop, last, rfl, hstop', hlast⟩ := List.map_eq_cons_iff.1 hlast
    obtain rfl := List.map_eq_nil_iff.1 hlast
    obtain rfl := (h.text _ _).1 hfirst
    rw [← hstart', h.isExpr] at hstart
    rw [← hstop', h.isExpr] at hstop
    refine ⟨⟨d'.unit, start, stop⟩, ofTree?_eq_some_iff.2 ⟨name, nulls, braces, parameters, unique,
      args, rest, unit, rfl, hname, hfilter, hstart, hstop, hunit⟩, ?_⟩
    obtain ⟨own, _, _⟩ := d'
    simp only at hstart' hstop'
    rw [hstart', hstop']
  · rintro ⟨d, hd, rfl⟩
    obtain ⟨name, nulls, braces, parameters, unique, args, rest, unit, heq, hname, hargs, hstart,
      hstop, hunit⟩ := ofTree?_eq_some_iff.1 hd
    obtain ⟨rfl, rfl⟩ := node.inj heq
    refine ⟨name, nulls, braces, change parameters, unique, args.map change, rest.map change, unit,
      ?_, hname, ?_, (h.isExpr _).trans hstart, (h.isExpr _).trans hstop, hunit⟩
    · rw [List.map_cons, List.map_cons, h.clause]
    · rw [h.filter_map, hargs, List.map_cons, (h.text _ _).2 rfl]
      rfl

end Keeps

/-! ## Translated date differences -/

/-- Whether a node is a date difference that the engine has a formula for. -/
def translates (e : Engine) (t : SyntaxTree) : Bool :=
  ((DateDifference.ofTree? t).bind e.formulaTree?).isSome

theorem isSome_formulaTree? (e : Engine) (unit : DateUnit) (a b a' b' : SyntaxTree) :
    (e.formulaTree? ⟨unit, a, b⟩).isSome = (e.formulaTree? ⟨unit, a', b'⟩).isSome := by
  cases e <;> cases unit <;> rfl

theorem Keeps.translates_node {change : SyntaxTree → SyntaxTree} (h : Keeps change) (e : Engine)
    (form : Form) (parts : List SyntaxTree) :
    e.translates (.node form (parts.map change)) = e.translates (.node form parts) := by
  rw [translates, translates, h.ofTree?_node]
  cases DateDifference.ofTree? (.node form parts) with
  | none => rfl
  | some d => exact e.isSome_formulaTree? d.unit _ _ _ _

theorem translates_eq_true : e.translates t = true ↔
    ∃ d x, DateDifference.ofTree? t = some d ∧ e.formulaTree? d = some x := by
  rw [translates, Option.isSome_iff_exists]
  simp only [Option.bind_eq_some_iff]
  exact ⟨fun ⟨x, d, hd, hx⟩ => ⟨d, x, hd, hx⟩, fun ⟨d, x, hd, hx⟩ => ⟨x, d, hd, hx⟩⟩

/-- What becomes of a node whose parts have been reworded: the formula of a date difference, or the
node, under another name if it is a call that the engine has another name for. -/
theorem wordNode_cases (e : Engine) (t : SyntaxTree) :
    (∃ d x, DateDifference.ofTree? t = some d ∧ e.formulaTree? d = some x ∧ e.wordNode t = x)
      ∨ (e.translates t = false ∧ (e.wordNode t).parts = t.parts
        ∧ ((e.wordNode t).form = t.form ∨ ∃ name nulls braces new,
          t.form = .expr (.call name nulls braces) ∧ e.functionName? (renderPath name) = some new
            ∧ (e.wordNode t).form = .expr (.call [.plain new] nulls braces))) := by
  -- a formula goes before a new name
  cases hformula : (DateDifference.ofTree? t).bind e.formulaTree? with
  | some x =>
    obtain ⟨d, hd, hx⟩ := Option.bind_eq_some_iff.1 hformula
    refine .inl ⟨d, x, hd, hx, ?_⟩
    rw [wordNode, hformula, Option.getD_some]
  | none =>
    have hno : e.translates t = false := by
      rw [translates, hformula]
      rfl
    have hword : e.wordNode t = (t.renameCall? e.functionName?).getD t := by
      rw [wordNode, hformula, Option.getD_none]
    rw [hword]
    refine .inr ⟨hno, ?_⟩
    cases hrename : t.renameCall? e.functionName? with
    | none => exact ⟨rfl, .inl rfl⟩
    | some t' =>
      obtain ⟨name, nulls, braces, parts, new, rfl, hnew, rfl⟩ := renameCall?_eq_some hrename
      exact ⟨rfl, .inr ⟨name, nulls, braces, new, rfl, hnew, rfl⟩⟩

theorem isExpr_formulaTree? {d : DateDifference} {x : SyntaxTree} (hx : e.formulaTree? d = some x) :
    x.isExpr = true ∧ ∀ s, x ≠ textTree s := by
  unfold formulaTree? at hx
  split at hx <;> cases hx <;> exact ⟨rfl, nofun⟩

theorem isExpr_of_ofTree? {d : DateDifference} (hd : DateDifference.ofTree? t = some d) :
    t.isExpr = true := by
  obtain ⟨_, _, _, _, _, _, _, _, rfl, -⟩ := ofTree?_eq_some hd
  rfl

theorem isExpr_wordNode (e : Engine) (t : SyntaxTree) : (e.wordNode t).isExpr = t.isExpr := by
  rcases e.wordNode_cases t with ⟨d, x, hd, hx, rfl⟩ | ⟨-, -, hform | ⟨_, _, _, _, hform, -, hform'⟩⟩
  · rw [(isExpr_formulaTree? hx).1, isExpr_of_ofTree? hd]
  · rw [isExpr, isExpr, hform]
  · rw [isExpr, isExpr, hform, hform']

theorem keeps_mapNodes {f : SyntaxTree → SyntaxTree}
    (hclause : ∀ form parts, f (.clause form parts) = .clause form parts)
    (hexpr : ∀ t, (f t).isExpr = t.isExpr) (htext : ∀ t s, f t = textTree s ↔ t = textTree s) :
    Keeps (mapNodes f) where
  clause form parts := by rw [mapNodes_node, hclause]
  isExpr t := by
    obtain ⟨form, parts⟩ := t
    rw [mapNodes_node, hexpr]
    rfl
  text t s := by
    obtain ⟨form, parts⟩ := t
    rw [mapNodes_node, htext, textTree, node.injEq, node.injEq, List.map_eq_nil_iff]

theorem keeps_wordNode (e : Engine) : Keeps (mapNodes e.wordNode) := by
  refine keeps_mapNodes (fun _ _ => rfl) e.isExpr_wordNode fun t s => ⟨fun h => ?_, ?_⟩
  · rcases e.wordNode_cases t with ⟨d, x, -, hx, rfl⟩ | ⟨-, hparts, hform | ⟨_, _, _, _, -, -, hform⟩⟩
    · exact absurd h ((isExpr_formulaTree? hx).2 s)
    · obtain ⟨form, parts⟩ := t
      rw [h] at hparts hform
      exact congrArg₂ SyntaxTree.node hform.symm hparts.symm
    · rw [h] at hform
      cases hform
  · rintro rfl
    rfl

/-! ## Without attachments -/

/-- A call of a function with its arguments proper only. -/
def bareCall : SyntaxTree → SyntaxTree
  | .node (.expr (.call name _ _)) (_ :: .node (.clause (.arguments _)) args :: _) =>
    .expr (.call name none false)
      [.absent, .clause (.arguments none) (args.filter fun p => !isArgumentClause p.form), .absent,
        .absent]
  | t => t

/-- A date difference that the engine has a formula for with nothing attached; any other node as it
is. -/
def bareNode (e : Engine) (t : SyntaxTree) : SyntaxTree :=
  if e.translates t then bareCall t else t

theorem bareCall_of_ofTree? {d : DateDifference} (hd : DateDifference.ofTree? t = some d) :
    ∃ name unit, lower (renderPath name) = "datediff" ∧ DateUnit.parse? unit = some d.unit
      ∧ bareCall t = .expr (.call name none false)
        [.absent, .clause (.arguments none) [textTree unit, d.start, d.stop], .absent, .absent] := by
  obtain ⟨name, _, _, _, _, args, _, unit, rfl, hname, hargs, -, -, hunit⟩ := ofTree?_eq_some_iff.1 hd
  exact ⟨name, unit, hname, hunit, by rw [bareCall, hargs]⟩

theorem ofTree?_bareCall {d : DateDifference} (hd : DateDifference.ofTree? t = some d) :
    DateDifference.ofTree? (bareCall t) = some d := by
  obtain ⟨_, _, _, _, _, _, _, _, -, -, -, hstart, hstop, -⟩ := ofTree?_eq_some_iff.1 hd
  obtain ⟨name, unit, hname, hunit, hbare⟩ := bareCall_of_ofTree? hd
  have hexpr : ∀ a ∈ [textTree unit, d.start, d.stop], isArgumentClause a.form = false := by
    intro a ha
    simp only [List.mem_cons, List.not_mem_nil, or_false] at ha
    rcases ha with rfl | rfl | rfl
    · rfl
    · exact isArgumentClause_of_isExpr hstart
    · exact isArgumentClause_of_isExpr hstop
  -- the arguments that are kept are the three that the formula takes
  have hproper : [textTree unit, d.start, d.stop].filter (fun p => !isArgumentClause p.form)
      = [textTree unit, d.start, d.stop] :=
    List.filter_eq_self.2 fun a ha => by rw [hexpr a ha, Bool.not_false]
  rw [hbare, ofTree?_eq_some_iff]
  exact ⟨name, _, _, _, _, _, _, unit, rfl, hname, hproper, hstart, hstop, hunit⟩

theorem isExpr_bareNode (e : Engine) (t : SyntaxTree) : (e.bareNode t).isExpr = t.isExpr := by
  rw [bareNode]
  by_cases htranslates : e.translates t = true
  · obtain ⟨d, x, hd, -⟩ := translates_eq_true.1 htranslates
    obtain ⟨name, unit, -, -, hbare⟩ := bareCall_of_ofTree? hd
    rw [if_pos htranslates, hbare, isExpr_of_ofTree? hd]
    rfl
  · rw [if_neg htranslates]

theorem keeps_bareNode (e : Engine) : Keeps (mapNodes e.bareNode) := by
  refine keeps_mapNodes (fun _ _ => rfl) e.isExpr_bareNode fun t s => ⟨fun h => ?_, ?_⟩
  · rw [bareNode] at h
    split at h
    · next htranslates =>
      obtain ⟨d, x, hd, -⟩ := translates_eq_true.1 htranslates
      obtain ⟨name, unit, -, -, hbare⟩ := bareCall_of_ofTree? hd
      rw [hbare] at h
      cases h
    · exact h
  · rintro rfl
    rfl

theorem mapNodes_wordNode_bareNode (e : Engine) (t : SyntaxTree) :
    (t.mapNodes e.bareNode).mapNodes e.wordNode = t.mapNodes e.wordNode := by
  induction t using SyntaxTree.induction with
  | node form parts ih =>
    have hparts : (parts.map (mapNodes e.bareNode)).map (mapNodes e.wordNode)
        = parts.map (mapNodes e.wordNode) := by
      rw [List.map_map]
      exact List.map_congr_left ih
    rw [mapNodes_node, mapNodes_node, ← hparts, bareNode]
    -- the formula does not look at what is attached, and without a formula nothing is taken away
    by_cases htranslates : e.translates (.node form (parts.map (mapNodes e.bareNode))) = true
    · rw [if_pos htranslates]
      obtain ⟨d, x, hd, hx⟩ := translates_eq_true.1 htranslates
      -- on both sides there is the same date difference once its dates have been reworded
      have hbare := ofTree?_bareCall hd
      generalize bareCall (.node form (parts.map (mapNodes e.bareNode))) = bare at hbare
      obtain ⟨form', parts'⟩ := bare
      have hleft := (keeps_wordNode e).ofTree?_node form' parts'
      have hright := (keeps_wordNode e).ofTree?_node form (parts.map (mapNodes e.bareNode))
      rw [hbare] at hleft
      rw [hd] at hright
      rw [mapNodes_node, wordNode, wordNode, hleft, hright]
      have hsome := e.isSome_formulaTree? d.unit d.start d.stop (d.start.mapNodes e.wordNode)
        (d.stop.mapNodes e.wordNode)
      rw [hx] at hsome
      obtain ⟨y, hy⟩ := Option.isSome_iff_exists.1 hsome.symm
      rw [Option.map_some, Option.bind_some, hy, Option.getD_some, Option.getD_some]
    · rw [if_neg htranslates, mapNodes_node]

/-! ## Columns that are kept -/

section

variable {enters : Form → Bool} {walk : SyntaxTree → List SyntaxTree} (hwalk : IsWalk enters walk)
  (hexprs : ∀ form, enters (.expr form) = true)
  (harguments : ∀ unique, enters (.clause (.arguments unique)) = true)

include hwalk hexprs harguments

theorem columnForms_call (name : List Ident) (args : List SyntaxTree) :
    columnForms walk (.expr (.call name none false)
        [.absent, .clause (.arguments none) args, .absent, .absent])
      = args.flatMap (columnForms walk) := by
  rw [columnForms_node hwalk, if_pos (hexprs _)]
  simp only [List.flatMap_cons, List.flatMap_nil, columnForms_absent hwalk,
    columnForms_clause hwalk, harguments, if_true, List.append_nil]
  rfl

omit harguments in
theorem columnForms_literal (value : Literal) :
    columnForms walk (.expr (.literal value) []) = [] := by
  rw [columnForms_node hwalk, if_pos (hexprs _)]
  rfl

theorem showing_formulaTree? {d : DateDifference} {x : SyntaxTree} (hx : e.formulaTree? d = some x) :
    showing walk x = showing walk d.stop ++ showing walk d.start := by
  -- a call of a formula is no aggregate, so that the walk passes on to its arguments
  have hcall : ∀ {name : String}, name ∈ formulaFunctions → ∀ args,
      showing walk (callTree name args) = args.flatMap (showing walk) := by
    intro name hname args
    have hsight : sight? (.expr (.call [.plain name] none false)) = none := by
      refine sight?_call_eq_none ?_
      rw [renderPath_plain]
      exact not_aggregate_of_mem_formulaFunctions hname
    have hargs : showing walk (.clause (.arguments none) args) = args.flatMap (showing walk) :=
      showing_node_of_none hwalk (harguments none) rfl
    rw [callTree, showing_node_of_none hwalk (hexprs _) hsight]
    simp [showing_absent hwalk, hargs]
  have hnode : ∀ form parts, sight? (.expr form) = none →
      showing walk (.expr form parts) = parts.flatMap (showing walk) := fun form parts =>
    showing_node_of_none hwalk (hexprs form)
  have hliteral : ∀ value, showing walk (.expr (.literal value) []) = [] := fun value =>
    hnode (.literal value) [] rfl
  have hdays : showing walk (callTree "DATEDIFF" [d.stop, d.start])
      = showing walk d.stop ++ showing walk d.start := by
    rw [hcall (by simp [formulaFunctions])]
    simp
  have hdate : ∀ date, showing walk (callTree "DATE_FORMAT" [date, textTree "%Y%m"])
      = showing walk date := by
    intro date
    rw [hcall (by simp [formulaFunctions])]
    simp [textTree, hliteral]
  have hyear : ∀ date, showing walk (callTree "YEAR" [date]) = showing walk date := by
    intro date
    rw [hcall (by simp [formulaFunctions])]
    simp
  -- every formula writes the second date in front of the first one
  unfold formulaTree? at hx
  split at hx <;> cases hx
  · exact hdays
  · rw [hnode _ _ rfl, List.flatMap_singleton, hnode _ _ rfl]
    simp [hdays, numberTree, hliteral]
  · rw [hcall (by simp [formulaFunctions])]
    simp [hdate]
  · rw [hnode _ _ rfl, List.flatMap_singleton, hnode _ _ rfl]
    simp [hyear]

/-- A formula has the columns of the date where it ends in front of those where it starts. -/
theorem columnForms_formulaTree? {d : DateDifference} {x : SyntaxTree}
    (hx : e.formulaTree? d = some x) :
    columnForms walk x = columnForms walk d.stop ++ columnForms walk d.start := by
  rw [columnForms_eq_showing, showing_formulaTree? hwalk hexprs harguments hx, List.map_append,
    List.filter_append, ← columnForms_eq_showing, ← columnForms_eq_showing]

theorem columnForms_bareCall_sublist (t : SyntaxTree) :
    (columnForms walk (bareCall t)).Sublist (columnForms walk t) := by
  unfold bareCall
  split
  · -- the arguments proper are among the arguments, and these among the parts
    next name nulls braces parameters unique args rest =>
    rw [columnForms_call hwalk hexprs harguments, columnForms_node hwalk, if_pos (hexprs _)]
    have hproper : ((args.filter fun p => !isArgumentClause p.form).flatMap (columnForms walk)).Sublist
        (columnForms walk (.clause (.arguments unique) args)) := by
      rw [columnForms_clause hwalk, if_pos (harguments _)]
      exact (List.filter_sublist).flatMap _
    rw [List.flatMap_cons, List.flatMap_cons]
    exact ((hproper.trans (List.sublist_append_left _ _)).trans (List.sublist_append_right _ _)).trans
      (List.sublist_append_right _ _)
  · exact .refl _

theorem columnForms_bareNode_sublist (e : Engine) (t : SyntaxTree) :
    (columnForms walk (t.mapNodes e.bareNode)).Sublist (columnForms walk t) := by
  induction t using SyntaxTree.induction with
  | node form parts ih =>
    -- first the parts are bared, then the node itself
    have hnode : (columnForms walk (.node form (parts.map (mapNodes e.bareNode)))).Sublist
        (columnForms walk (.node form parts)) := by
      rw [columnForms_node hwalk, columnForms_node hwalk]
      by_cases henters : enters form = true
      · rw [if_pos henters, if_pos henters, List.flatMap_map]
        exact List.Sublist.append (.refl _) (List.Sublist.flatMap_right _ ih)
      · rw [if_neg henters, if_neg henters]
    rw [mapNodes_node, bareNode]
    split
    · exact (columnForms_bareCall_sublist hwalk hexprs harguments _).trans hnode
    · exact hnode

/-- What a tree refers to without its attachments is what it refers to in the words of the engine. -/
theorem columnForms_wordNode_perm (e : Engine) (t : SyntaxTree) :
    (columnForms walk (t.mapNodes e.wordNode)).Perm (columnForms walk (t.mapNodes e.bareNode)) := by
  induction t using SyntaxTree.induction_below with
  | node form parts ih =>
    rw [mapNodes_node, mapNodes_node]
    rcases e.wordNode_cases (.node form (parts.map (mapNodes e.wordNode))) with
      ⟨d, x, hd, hx, hword⟩ | ⟨hno, hparts, hform⟩
    · rw [(keeps_wordNode e).ofTree?_node, Option.map_eq_some_iff] at hd
      obtain ⟨own, hown, rfl⟩ := hd
      have hbare := (keeps_bareNode e).ofTree?_node form parts
      rw [hown, Option.map_some] at hbare
      have htranslates : e.translates (.node form (parts.map (mapNodes e.bareNode))) = true := by
        rw [(keeps_bareNode e).translates_node, ← (keeps_wordNode e).translates_node]
        exact translates_eq_true.2 ⟨_, x, by rw [(keeps_wordNode e).ofTree?_node, hown]; rfl, hx⟩
      obtain ⟨name, unit, -, -, hcall⟩ := bareCall_of_ofTree? hbare
      obtain ⟨p, hp, hmemstart, hmemstop⟩ := mem_nodes_of_ofTree? hown
      have hstart := ih p hp _ hmemstart
      have hstop := ih p hp _ hmemstop
      rw [hword, columnForms_formulaTree? hwalk hexprs harguments hx, bareNode, if_pos htranslates,
        hcall, columnForms_call hwalk hexprs harguments]
      simp only [List.flatMap_cons, List.flatMap_nil, List.append_nil]
      rw [textTree, columnForms_literal hwalk hexprs, List.nil_append]
      -- the formula names the dates the other way around
      exact List.perm_append_comm.trans (hstart.append hstop)
    · have hbare : ¬ e.translates (.node form (parts.map (mapNodes e.bareNode))) = true := by
        rw [(keeps_bareNode e).translates_node, ← (keeps_wordNode e).translates_node, hno]
        exact Bool.false_ne_true
      have hflat : ((parts.map (mapNodes e.wordNode)).flatMap (columnForms walk)).Perm
          ((parts.map (mapNodes e.bareNode)).flatMap (columnForms walk)) := by
        rw [List.flatMap_map, List.flatMap_map]
        exact List.Perm.flatMap_left _ fun p hp => ih p hp p (mem_nodes_self p)
      rw [bareNode, if_neg hbare]
      generalize e.wordNode _ = word at hparts hform ⊢
      obtain ⟨form', parts'⟩ := word
      obtain rfl : parts' = parts.map (mapNodes e.wordNode) := hparts
      rw [columnForms_node hwalk, columnForms_node hwalk]
      rcases hform with hform | ⟨name, nulls, braces, new, hform, -, hform'⟩
      · obtain rfl : form' = form := hform
        by_cases henters : enters form' = true
        · rw [if_pos henters, if_pos henters]
          exact hflat.append_left _
        · rw [if_neg henters, if_neg henters]
      · -- a call is no column under either name
        obtain rfl : form = _ := hform
        obtain rfl : form' = _ := hform'
        rw [if_pos (hexprs _), if_pos (hexprs _)]
        exact hflat

end

/-! ## Places -/

/-- Whether a path leads through no date difference that the engine has a formula for. -/
def Bypasses (e : Engine) (t : SyntaxTree) (path : List Nat) : Prop :=
  ∀ p n, p <+: path → p ≠ path → t.at? p = some n → e.translates n = false

theorem at?_wordNode {path : List Nat} (h : e.Bypasses t path) :
    (t.mapNodes e.wordNode).at? path = (t.at? path).map (mapNodes e.wordNode) := by
  induction path generalizing t with
  | nil => rfl
  | cons i path ih =>
    obtain ⟨form, parts⟩ := t
    -- the root is on the path, so it keeps its parts
    have hroot : e.translates (.node form parts) = false :=
      h [] _ List.nil_prefix (List.cons_ne_nil i path).symm rfl
    have hparts : (e.wordNode (.node form (parts.map (mapNodes e.wordNode)))).parts
        = parts.map (mapNodes e.wordNode) := by
      rcases e.wordNode_cases (.node form (parts.map (mapNodes e.wordNode))) with
        ⟨d, x, hd, hx, -⟩ | ⟨-, hparts, -⟩
      · rw [← (keeps_wordNode e).translates_node, translates_eq_true.2 ⟨d, x, hd, hx⟩] at hroot
        cases hroot
      · exact hparts
    rw [mapNodes_node, at?_cons, hparts, List.getElem?_map, at?_cons]
    show _ = (parts[i]?.bind fun p => p.at? path).map _
    cases hp : parts[i]? with
    | none => rfl
    | some p =>
      refine ih fun own n hprefix hne hn => h (i :: own) n (List.cons_prefix_cons.2 ⟨rfl, hprefix⟩)
        (fun heq => hne (List.cons.inj heq).2) ?_
      rw [at?_cons]
      show (parts[i]?.bind fun p => p.at? own) = some n
      rw [hp, Option.bind_some, hn]

/-! ## Queries -/

variable {q q' : Query}

/-- A query in the words of an engine is its image from the innermost nodes outwards: a date
difference gives way to the formula over its dates, and any other call changes no more than its name.
It is the image of the query without what is attached to those date differences, too. Wherever no
such call is around it, each part of the query stays in its place and has there all columns that it
has without these attachments; so it has the columns that it has had exactly if each column of an
attachment is in the rest of it as well. -/
theorem reword_eq_image (hback : e.ReadsFormulasBack q.toTree) (h : e.reword q = .ok q') :
    q' = q.mapNodes e.wordNode
      ∧ q' = (q.mapNodes e.bareNode).mapNodes e.wordNode
      ∧ (∀ t,
        (∃ d x, DateDifference.ofTree? t = some d
          ∧ e.dateFormula? d.unit d.start.render d.stop.render = some x.render
          ∧ e.formulaTree? d = some x ∧ e.wordNode t = x)
        ∨ (e.translates t = false ∧ (e.wordNode t).parts = t.parts
          ∧ ((e.wordNode t).form = t.form ∨ ∃ name nulls braces new,
            t.form = .expr (.call name nulls braces) ∧ e.functionName? (renderPath name) = some new
              ∧ (e.wordNode t).form = .expr (.call [.plain new] nulls braces))))
      ∧ ∀ path n, q.toTree.at? path = some n → e.Bypasses q.toTree path →
        q'.toTree.at? path = some (n.mapNodes e.wordNode)
          ∧ ∀ walk ∈ [nodes, outerNodes],
            (columnForms walk (n.mapNodes e.wordNode)).Perm (columnForms walk (n.mapNodes e.bareNode))
            ∧ (columnForms walk (n.mapNodes e.bareNode)).Sublist (columnForms walk n)
            ∧ ((∀ c, c ∈ columnForms walk (n.mapNodes e.wordNode) ↔ c ∈ columnForms walk n)
              ↔ ∀ c ∈ columnForms walk n, c ∈ columnForms walk (n.mapNodes e.bareNode)) := by
  have htree : q'.toTree = q.toTree.mapNodes e.wordNode :=
    eq_mapNodes_of_rewords hback (reword_eq_ok.1 h)
  have himage : q' = q.mapNodes e.wordNode := Query.toTree_injective htree
  refine ⟨himage, Query.toTree_injective ?_, fun t => ?_, fun path n hn hpath => ⟨?_, ?_⟩⟩
  · exact htree.trans (e.mapNodes_wordNode_bareNode q.toTree).symm
  · rcases e.wordNode_cases t with ⟨d, x, hd, hx, hword⟩ | hrest
    · obtain ⟨_, _, _, _, _, _, _, _, -, -, -, hstart, hstop⟩ := ofTree?_eq_some hd
      exact .inl ⟨d, x, hd, by rw [e.dateFormula?_eq_render d hstart hstop, hx]; rfl, hx, hword⟩
    · exact .inr hrest
  · rw [htree, at?_wordNode hpath, hn]
    rfl
  · intro walk hmem
    -- all that is needed of a walk is what it enters
    obtain ⟨enters, hwalk, hexprs, harguments⟩ := exists_isWalk hmem
    have hperm := columnForms_wordNode_perm hwalk hexprs harguments e n
    have hsub := columnForms_bareNode_sublist hwalk hexprs harguments e n
    refine ⟨hperm, hsub, fun hsame c hc => hperm.mem_iff.1 ((hsame c).2 hc), fun hall c => ?_⟩
    exact ⟨fun hc => hsub.mem (hperm.mem_iff.1 hc), fun hc => hperm.mem_iff.2 (hall c hc)⟩

/-- A date difference with a window attached. -/
def windowText : String :=
  "select datediff('day', a, b) over (partition by c) from t"

theorem windowText_reworded : ∃ q q', Query.parse windowText = .ok q ∧ mysql.reword q = .ok q'
    ∧ mysql.ReadsFormulasBack q.toTree ∧ q'.render = "SELECT DATEDIFF(b, a) FROM t"
    ∧ q.fields = ["a", "b", "c"] ∧ q'.fields = ["b", "a"] := by
  have heval : ((Query.parse windowText).toOption.any fun q => (mysql.reword q).toOption.any fun q' =>
      mysql.ReadsFormulasBack q.toTree ∧ q'.render = "SELECT DATEDIFF(b, a) FROM t"
        ∧ q.fields = ["a", "b", "c"] ∧ q'.fields = ["b", "a"]) = true := by
    decide +kernel
  cases hread : Query.parse windowText with
  | error err =>
    rw [hread] at heval
    cases heval
  | ok q =>
    rw [hread] at heval
    cases hreword : mysql.reword q with
    | error err =>
      simp only [Except.toOption, Option.any_some, hreword, Option.any_none] at heval
      cases heval
    | ok q' =>
      simp only [Except.toOption, Option.any_some, hreword, decide_eq_true_eq] at heval
      exact ⟨q, q', rfl, hreword, heval⟩

theorem reword_eq_image_window : ∃ q q', Query.parse windowText = .ok q
    ∧ mysql.ReadsFormulasBack q.toTree ∧ mysql.reword q = .ok q'
    ∧ q' = q.mapNodes mysql.wordNode ∧ q' = (q.mapNodes mysql.bareNode).mapNodes mysql.wordNode := by
  obtain ⟨q, q', hread, hreword, hback, -⟩ := windowText_reworded
  obtain ⟨himage, hbare, -⟩ := reword_eq_image hback hreword
  exact ⟨q, q', hread, hback, hreword, himage, hbare⟩

theorem reword_loses_column : ∃ q q', Query.parse windowText = .ok q
    ∧ mysql.ReadsFormulasBack q.toTree ∧ mysql.reword q = .ok q'
    ∧ q'.render = "SELECT DATEDIFF(b, a) FROM t" ∧ "c" ∈ q.fields ∧ "c" ∉ q'.fields := by
  obtain ⟨q, q', hread, hreword, hback, hrender, hfields, hfields'⟩ := windowText_reworded
  refine ⟨q, q', hread, hback, hreword, hrender, ?_, ?_⟩
  · rw [hfields]
    decide
  · rw [hfields']
    decide

end Engine

end MetricQuery
