import MetricQuery.Proofs.Engine.DateFormula
import MetricQuery.Proofs.Sql.Tree
import MetricQuery.Proofs.Text.LowerCase

/-!
# Rewording — what the words of an engine do to a tree

Rewording is a change of every node that may fail. At a node it keeps the expression, gives a call
another name, or puts a formula in the place of a date difference. A tree that has been reworded is
settled: rewording it once more succeeds and changes nothing, provided that each formula has been
read back as the tree that it is the text of.
-/

namespace MetricQuery.Engine

open MetricQuery.Sql MetricQuery.Sql.SyntaxTree MetricQuery.Text

variable {e : Engine} {t t' : SyntaxTree}

/-! ## One node -/

theorem ofTree?_eq_some {d : DateDifference} (h : DateDifference.ofTree? t = some d) :
    ∃ name nulls braces parameters unique args rest unit,
      t = .expr (.call name nulls braces) (parameters :: .clause (.arguments unique) args :: rest)
        ∧ lower (renderPath name) = "datediff"
        ∧ args.filter (fun p => !isArgumentClause p.form)
          = [textTree unit, d.start, d.stop]
        ∧ d.start.isExpr = true ∧ d.stop.isExpr = true := by
  -- one branch passes all checks: the name, the three arguments, and that each one is an expression
  unfold DateDifference.ofTree? at h
  split at h
  · next hname =>
    split at h
    · next unit start stop hargs =>
      obtain ⟨unit', -, rfl⟩ := Option.map_eq_some_iff.1 h
      unfold DateDifference.plainArguments? at hargs
      split at hargs
      · next name nulls braces parameters unique args rest =>
        simp only at hargs
        split at hargs
        · next hall =>
          have hfilter := Option.some.inj hargs
          rw [hfilter] at hall
          simp only [List.all_cons, Bool.and_eq_true] at hall
          exact ⟨name, nulls, braces, parameters, unique, args, rest, unit, rfl,
            Option.some.inj hname, hfilter, hall.2.1, hall.2.2.1⟩
        · cases hargs
      · cases hargs
    · cases h
  · cases h

/-- The text of a formula is the text of its tree. -/
theorem formulaText?_eq (e : Engine) (t : SyntaxTree) :
    e.formulaText? t = ((DateDifference.ofTree? t).bind e.formulaTree?).map render := by
  unfold formulaText?
  cases hd : DateDifference.ofTree? t with
  | none => rfl
  | some d =>
    obtain ⟨_, _, _, _, _, _, _, _, -, -, -, hstart, hstop⟩ := ofTree?_eq_some hd
    exact e.dateFormula?_eq_render d hstart hstop

theorem renameCall?_eq_some {rename : String → Option String} (h : t.renameCall? rename = some t') :
    ∃ name nulls braces parts new, t = .expr (.call name nulls braces) parts
      ∧ rename (renderPath name) = some new
      ∧ t' = .expr (.call [.plain new] nulls braces) parts := by
  -- what is no call, has no new name or would keep its name is not renamed
  unfold renameCall? at h
  split at h
  · cases h
  · next current hcurrent =>
    split at h
    · cases h
    · next new hnew =>
      split at h
      · cases h
      · unfold callName? at hcurrent
        split at hcurrent
        · next name nulls braces parts =>
          cases hcurrent
          cases h
          exact ⟨name, nulls, braces, parts, new, rfl, hnew, rfl⟩
        · cases hcurrent

theorem renameCall?_eq_none {rename : String → Option String} :
    t.renameCall? rename = none
      ↔ ∀ name, t.callName? = some name → ∀ own, rename name = some own → own = name := by
  unfold renameCall?
  split
  · next hcall => simp [hcall]
  · next current hcall =>
    split
    · next hname => simp [hcall, hname]
    · next own hname => simp [hcall, hname]

/-- Whether a node is in the words of the engine already: it is no date difference that the engine
has a formula for, and no call that the engine has another name for. -/
def InWords (e : Engine) (n : SyntaxTree) : Prop :=
  (∀ d, DateDifference.ofTree? n = some d →
      e.dateFormula? d.unit d.start.render d.stop.render = none)
    ∧ ∀ name, n.callName? = some name → ∀ own, e.functionName? name = some own → own = name

theorem inWords_iff :
    e.InWords t ↔ e.formulaText? t = none ∧ t.renameCall? e.functionName? = none := by
  have hformula : e.formulaText? t = none ↔ ∀ d, DateDifference.ofTree? t = some d →
      e.dateFormula? d.unit d.start.render d.stop.render = none :=
    Option.bind_eq_none_iff
  rw [InWords, hformula, renameCall?_eq_none]

theorem rewordNode_of_inWords (h : e.InWords t) : e.rewordNode t = .ok t := by
  obtain ⟨hformula, hrename⟩ := inWords_iff.1 h
  rw [rewordNode, hformula, hrename]
  rfl

/-- What may become of a node: it stays since it is in the words of the engine, it is a call that
gets another name, or it is a date difference and gives way to what is read from the formula's
text. -/
theorem rewordNode_cases (h : e.rewordNode t = .ok t') :
    (t' = t ∧ e.InWords t)
      ∨ (∃ name nulls braces parts new, t = .expr (.call name nulls braces) parts
        ∧ e.functionName? (renderPath name) = some new
        ∧ t' = .expr (.call [.plain new] nulls braces) parts)
      ∨ ∃ d x, DateDifference.ofTree? t = some d ∧ e.formulaTree? d = some x
        ∧ parseExpr x.render = .ok t' := by
  unfold rewordNode at h
  -- a formula goes before a new name, and a node that has neither stays
  cases hformula : e.formulaText? t with
  | some text =>
    rw [hformula] at h
    rw [formulaText?_eq] at hformula
    obtain ⟨x, hx, rfl⟩ := Option.map_eq_some_iff.1 hformula
    obtain ⟨d, hd, hx⟩ := Option.bind_eq_some_iff.1 hx
    exact .inr (.inr ⟨d, x, hd, hx, h⟩)
  | none =>
    rw [hformula] at h
    cases hrename : t.renameCall? e.functionName? with
    | none =>
      rw [hrename] at h
      exact .inl ⟨(Except.ok.inj h).symm, inWords_iff.2 ⟨hformula, hrename⟩⟩
    | some u =>
      rw [hrename] at h
      obtain rfl : u = t' := Except.ok.inj h
      exact .inr (.inl (renameCall?_eq_some hrename))

/-! ## A whole tree -/

/-- Whether the tree becomes the other one in the words of the engine. -/
def Rewords (e : Engine) (t t' : SyntaxTree) : Prop :=
  t.tryMapNodes e.rewordNode = .ok t'

theorem rewords_node {form : Form} {parts : List SyntaxTree} :
    e.Rewords (.node form parts) t' ↔ ∃ parts',
      List.Forall₂ e.Rewords parts parts' ∧ e.rewordNode (.node form parts') = .ok t' :=
  tryMapNodes_eq_ok

theorem rewords_clause {form : ClauseForm} {parts : List SyntaxTree} :
    e.Rewords (.clause form parts) t'
      ↔ ∃ parts', List.Forall₂ e.Rewords parts parts' ∧ t' = .clause form parts' := by
  rw [rewords_node]
  refine exists_congr fun parts' => and_congr_right fun _ => ?_
  -- a clause itself has the same words for every engine
  show Except.ok (.clause form parts') = Except.ok t' ↔ t' = .clause form parts'
  rw [Except.ok.injEq, eq_comm]

theorem mapNodesAllWith_failed {err : ParseError} {ts : List SyntaxTree}
    (h : ∀ t ∈ ts, t.mapNodesWith e.rewordStep (some err) = (t, some err)) :
    mapNodesAllWith e.rewordStep (some err) ts = (ts, some err) := by
  induction ts with
  | nil => rw [mapNodesAllWith]
  | cons t ts ih =>
    rw [mapNodesAllWith, h t (.head _)]
    dsimp only
    rw [ih fun u hu => h u (.tail _ hu)]

/-- After a failure nothing changes any more. -/
theorem mapNodesWith_failed (e : Engine) (err : ParseError) (t : SyntaxTree) :
    t.mapNodesWith e.rewordStep (some err) = (t, some err) := by
  induction t using SyntaxTree.induction with
  | node form parts ih =>
    rw [mapNodesWith, mapNodesAllWith_failed ih]
    rfl

/-- What a walk has come to: its result if nothing has failed. -/
def outcome {α : Type} : α × Option ParseError → Except ParseError α
  | (a, none) => .ok a
  | (_, some err) => .error err

theorem outcome_rewordStep (e : Engine) (t : SyntaxTree) :
    outcome (e.rewordStep none t) = e.rewordNode t := by
  unfold rewordStep
  cases e.rewordNode t <;> rfl

/-- Passing the failure along from node to node is to stop at it. -/
theorem tryMapNodes_rewordNode (e : Engine) (t : SyntaxTree) :
    t.tryMapNodes e.rewordNode = outcome (t.mapNodesWith e.rewordStep none) := by
  induction t using SyntaxTree.induction with
  | node form parts ih =>
    have hparts : tryMapNodesAll e.rewordNode parts
        = outcome (mapNodesAllWith e.rewordStep none parts) := by
      induction parts with
      | nil =>
        rw [tryMapNodesAll, mapNodesAllWith]
        rfl
      | cons p ps ihps =>
        have hps := ihps fun q hq => ih q (.tail _ hq)
        rw [tryMapNodesAll, mapNodesAllWith, ih p (.head _)]
        obtain ⟨p', failed⟩ := p.mapNodesWith e.rewordStep none
        cases failed with
        | some err =>
          -- one walk stops here and the other one goes on without changing anything
          dsimp only
          rw [mapNodesAllWith_failed fun q _ => mapNodesWith_failed e err q]
          rfl
        | none =>
          rw [hps]
          dsimp only
          obtain ⟨ps', failed⟩ := mapNodesAllWith e.rewordStep none ps
          cases failed <;> rfl
    rw [tryMapNodes, mapNodesWith, hparts]
    obtain ⟨parts', failed⟩ := mapNodesAllWith e.rewordStep none parts
    cases failed with
    | some err => rfl
    | none => exact (outcome_rewordStep e _).symm

/-! ## A query -/

variable {q q' : Query}

theorem toTree_mapNodesWith (e : Engine) (q : Query) :
    q.toTree.mapNodesWith e.rewordStep none
      = ((e.rewordFar q).1.toTree, (e.rewordFar q).2) := by
  refine Query.toTree_mapNodesWith (fun failed parts => ?_) none
  cases failed <;> rfl

theorem reword_eq_outcome (e : Engine) (q : Query) : e.reword q = outcome (e.rewordFar q) := by
  unfold reword
  obtain ⟨far, failed⟩ := e.rewordFar q
  cases failed <;> rfl

/-- A query is reworded as the tree that it is. -/
theorem reword_eq_ok : e.reword q = .ok q' ↔ e.Rewords q.toTree q'.toTree := by
  rw [Rewords, tryMapNodes_rewordNode, toTree_mapNodesWith, reword_eq_outcome]
  obtain ⟨far, failed⟩ := e.rewordFar q
  cases failed with
  | some err => exact ⟨fun h => (nomatch h), fun h => (nomatch h)⟩
  | none =>
    exact ⟨fun h => by cases h; rfl,
      fun h => congrArg _ (Query.toTree_injective (Except.ok.inj h))⟩

end MetricQuery.Engine
