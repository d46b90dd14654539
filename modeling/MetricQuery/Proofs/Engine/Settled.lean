import MetricQuery.Proofs.Engine.Rewording

/-!
# Settled trees — what is in the words of an engine stays as it is

No rule of rewording fires twice. A name that an engine gives to a function is one that it keeps,
and a formula is no date difference any more: it has no unit among its arguments. So a tree that
has been reworded is in the words of the engine at every depth, and no rule fires in it.
-/

namespace MetricQuery.Engine

open MetricQuery.Sql MetricQuery.Sql.SyntaxTree MetricQuery.Text

variable {e : Engine} {t t' : SyntaxTree}

/-! ## Formulas that are read back -/

/-- The formula that is asked for at a node, its parts being reworded. -/
def formulaMet? (e : Engine) (t : SyntaxTree) : Option SyntaxTree :=
  match tryMapNodesAll e.rewordNode t.parts with
  | .ok parts => (DateDifference.ofTree? (.node t.form parts)).bind e.formulaTree?
  | .error _ => none

/-- Whether each formula that is asked for in a tree is read from its text as the tree that it is
the text of, if it is read at all. -/
def ReadsFormulasBack (e : Engine) (t : SyntaxTree) : Prop :=
  ∀ n ∈ t.exprs, ∀ x, e.formulaMet? n = some x → ∀ y, parseExpr x.render = .ok y → y = x

instance decidableForallOk {ε α : Type} {P : α → Prop} [DecidablePred P] :
    (result : Except ε α) → Decidable (∀ a, result = .ok a → P a)
  | .ok a => decidable_of_iff (P a) ⟨fun h _ heq => Except.ok.inj heq ▸ h, fun h => h a rfl⟩
  | .error _ => isTrue fun _ heq => nomatch heq

instance (e : Engine) (t : SyntaxTree) : Decidable (e.ReadsFormulasBack t) :=
  inferInstanceAs (Decidable (∀ n ∈ t.exprs, ∀ x, e.formulaMet? n = some x →
    ∀ y, parseExpr x.render = .ok y → y = x))

theorem ReadsFormulasBack.part {form : Form} {parts : List SyntaxTree} {p : SyntaxTree}
    (h : e.ReadsFormulasBack (.node form parts)) (hp : p ∈ parts) : e.ReadsFormulasBack p :=
  fun n hn => h n (mem_exprs_of_mem_part hp hn)

theorem ReadsFormulasBack.node {n : SyntaxTree} (h : e.ReadsFormulasBack t) (hn : n ∈ t.nodes) :
    e.ReadsFormulasBack n := by
  intro m hm
  obtain ⟨hnode, hexpr⟩ := List.mem_filter.1 hm
  exact h m (List.mem_filter.2 ⟨mem_nodes_trans hn hnode, hexpr⟩)

/-- The formula of a node whose parts have been reworded is one of those that are asked for. -/
theorem formulaMet?_of_rewords {form : Form} {parts parts' : List SyntaxTree} {x : SyntaxTree}
    (hparts : List.Forall₂ e.Rewords parts parts')
    (hx : (DateDifference.ofTree? (.node form parts')).bind e.formulaTree? = some x) :
    node form parts ∈ (node form parts).exprs ∧ e.formulaMet? (.node form parts) = some x := by
  constructor
  · obtain ⟨d, hd, -⟩ := Option.bind_eq_some_iff.1 hx
    obtain ⟨_, _, _, _, _, _, _, _, heq, -⟩ := ofTree?_eq_some hd
    obtain ⟨rfl, -⟩ := node.inj heq
    exact mem_exprs_self _ _
  · have hall : tryMapNodesAll e.rewordNode parts = .ok parts' := tryMapNodesAll_eq_ok.2 hparts
    simp only [formulaMet?, SyntaxTree.parts, SyntaxTree.form, hall, hx]

/-- What may become of a node with its parts, once formulas are read back: the form stays since it
is in the words of the engine, or a call gets another name, or a formula takes the place of a date
difference. -/
theorem Rewords.cases {form : Form} {parts : List SyntaxTree}
    (hback : e.ReadsFormulasBack (.node form parts)) (h : e.Rewords (.node form parts) t') :
    ∃ parts', List.Forall₂ e.Rewords parts parts'
      ∧ ((t' = .node form parts' ∧ e.InWords (.node form parts'))
        ∨ (∃ name nulls braces new, form = .expr (.call name nulls braces)
          ∧ e.functionName? (renderPath name) = some new
          ∧ t' = .expr (.call [.plain new] nulls braces) parts')
        ∨ ∃ d, DateDifference.ofTree? (.node form parts') = some d
          ∧ e.formulaTree? d = some t') := by
  obtain ⟨parts', hparts, hnode⟩ := rewords_node.1 h
  refine ⟨parts', hparts, ?_⟩
  rcases rewordNode_cases hnode with ⟨rfl, hwords⟩ |
    ⟨name, nulls, braces, parts'', new, heq, hnew, rfl⟩ | ⟨d, x, hd, hx, hparse⟩
  · exact .inl ⟨rfl, hwords⟩
  · obtain ⟨rfl, rfl⟩ := node.inj heq
    exact .inr (.inl ⟨name, nulls, braces, new, rfl, hnew, rfl⟩)
  · -- the formula is printed and read, and it is read back as the tree that it was printed from
    obtain ⟨hexpr, hmet⟩ := formulaMet?_of_rewords hparts (Option.bind_eq_some_iff.2 ⟨d, hd, hx⟩)
    obtain rfl := hback _ hexpr x hmet t' hparse
    exact .inr (.inr ⟨d, hd, hx⟩)

/-! ## Nothing fires twice -/

/-- Whether rewording leaves a tree as it is. -/
def Settled (e : Engine) (t : SyntaxTree) : Prop :=
  e.Rewords t t

theorem settled_node {form : Form} {parts : List SyntaxTree} (hparts : ∀ p ∈ parts, e.Settled p)
    (hnode : e.rewordNode (.node form parts) = .ok (.node form parts)) :
    e.Settled (.node form parts) :=
  rewords_node.2 ⟨parts, List.forall₂_same.2 hparts, hnode⟩

theorem settled_clause {form : ClauseForm} {parts : List SyntaxTree}
    (hparts : ∀ p ∈ parts, e.Settled p) : e.Settled (.clause form parts) :=
  settled_node hparts rfl

/-- Whether a tree is in the words of the engine at every depth. -/
def Worded (e : Engine) (t : SyntaxTree) : Prop :=
  ∀ n ∈ t.nodes, e.InWords n

theorem worded_node {form : Form} {parts : List SyntaxTree} :
    e.Worded (.node form parts) ↔ e.InWords (.node form parts) ∧ ∀ p ∈ parts, e.Worded p := by
  simp only [Worded, nodes_node, List.forall_mem_cons, List.forall_mem_flatMap]

theorem Worded.settled (h : e.Worded t) : e.Settled t := by
  induction t using SyntaxTree.induction with
  | node form parts ih =>
    obtain ⟨hnode, hparts⟩ := worded_node.1 h
    exact settled_node (fun p hp => ih p hp (hparts p hp)) (rewordNode_of_inWords hnode)

/-- Only calls are reworded. -/
theorem inWords_of_callName? (h : t.callName? = none) : e.InWords t := by
  refine ⟨fun d hd => ?_, fun name hname => ?_⟩
  · obtain ⟨_, _, _, _, _, _, _, _, rfl, -⟩ := ofTree?_eq_some hd
    cases h
  · rw [h] at hname
    cases hname

theorem worded_clause {form : ClauseForm} {parts : List SyntaxTree} :
    e.Worded (.clause form parts) ↔ ∀ p ∈ parts, e.Worded p := by
  rw [worded_node, and_iff_right (inWords_of_callName? rfl)]

/-- An engine's own name for a function is kept, and it is no date difference if the engine has
formulas for those. -/
theorem functionName?_settled {function name : String} (h : e.functionName? function = some name) :
    (e.functionName? name = none ∨ e.functionName? name = some name)
      ∧ (lower name = "datediff" → e ≠ .mysql) := by
  unfold functionName? at h
  split at h <;> cases h <;> decide +kernel

theorem functionName?_of_mem_formulaFunctions {name : String} (h : name ∈ formulaFunctions) :
    mysql.functionName? name = none ∨ mysql.functionName? name = some name := by
  revert name
  decide +kernel

/-- A call is left alone if it is no date difference of the engine and has no other name there. -/
theorem inWords_call {name : List Ident} {nulls : Option NullTreatment} {braces : Bool}
    {parts : List SyntaxTree}
    (hformula : (DateDifference.ofTree? (.expr (.call name nulls braces) parts)).bind e.formulaTree?
      = none)
    (hname : e.functionName? (renderPath name) = none
      ∨ e.functionName? (renderPath name) = some (renderPath name)) :
    e.InWords (.expr (.call name nulls braces) parts) := by
  refine inWords_iff.2 ⟨?_, renameCall?_eq_none.2 ?_⟩
  · rw [formulaText?_eq, hformula, Option.map_none]
  · intro current hcall own hown
    obtain rfl : renderPath name = current := Option.some.inj hcall
    rcases hname with h | h
    · rw [h] at hown
      cases hown
    · exact (Option.some.inj (h.symm.trans hown)).symm

/-- A formula exists for date differences in one engine only. -/
theorem eq_mysql_of_formulaTree? {d : DateDifference} {x : SyntaxTree}
    (h : e.formulaTree? d = some x) : e = .mysql := by
  cases e with
  | mysql => rfl
  | clickhouse => cases h
  | h2 => cases h

theorem bind_formulaTree?_of_ne_mysql (h : e ≠ .mysql) (d? : Option DateDifference) :
    d?.bind e.formulaTree? = none := by
  cases hx : d?.bind e.formulaTree? with
  | none => rfl
  | some x =>
    obtain ⟨d, -, hd⟩ := Option.bind_eq_some_iff.1 hx
    exact absurd (eq_mysql_of_formulaTree? hd) h

theorem ofTree?_of_name {name : List Ident} {nulls : Option NullTreatment} {braces : Bool}
    {parts : List SyntaxTree} (h : lower (renderPath name) ≠ "datediff") :
    DateDifference.ofTree? (.expr (.call name nulls braces) parts) = none := by
  refine if_neg fun hname => h ?_
  exact Option.some.inj hname

/-- A call of two arguments is no date difference. -/
theorem ofTree?_callTree_two (name : String) (a b : SyntaxTree) :
    DateDifference.ofTree? (callTree name [a, b]) = none := by
  cases hd : DateDifference.ofTree? (callTree name [a, b]) with
  | none => rfl
  | some d =>
    obtain ⟨_, _, _, _, _, args, _, _, heq, -, hargs, -⟩ := ofTree?_eq_some hd
    have hparts := (node.inj heq).2
    simp only [List.cons.injEq, node.injEq] at hparts
    have hlength := List.length_filter_le (fun p => !isArgumentClause p.form) args
    rw [hargs, ← hparts.2.1.2] at hlength
    simp at hlength

theorem worded_callTree {name : String} {args : List SyntaxTree}
    (hargs : ∀ a ∈ args, e.Worded a)
    (hformula : DateDifference.ofTree? (callTree name args) = none)
    (hname : e.functionName? name = none ∨ e.functionName? name = some name) :
    e.Worded (callTree name args) := by
  have habsent : e.Worded absent := worded_clause.2 fun p hp => by cases hp
  refine worded_node.2 ⟨inWords_call ?_ ?_, ?_⟩
  · rw [callTree] at hformula
    rw [hformula]
    rfl
  · rw [renderPath_plain]
    exact hname
  · intro p hp
    simp only [List.mem_cons, List.not_mem_nil, or_false] at hp
    rcases hp with rfl | rfl | rfl | rfl
    · exact habsent
    · exact worded_clause.2 hargs
    · exact habsent
    · exact habsent

/-- The formula of two dates in the words of the engine is in its words. -/
theorem worded_formulaTree? {d : DateDifference} {x : SyntaxTree}
    (hx : e.formulaTree? d = some x) (hstart : e.Worded d.start) (hstop : e.Worded d.stop) :
    e.Worded x := by
  obtain rfl := eq_mysql_of_formulaTree? hx
  have hliteral : ∀ value, mysql.Worded (.expr (.literal value) []) := fun value =>
    worded_node.2 ⟨inWords_of_callName? rfl, fun p hp => by cases hp⟩
  -- the engine keeps the names of the functions that it writes formulas with
  have hname : ∀ {name}, name ∈ formulaFunctions →
      mysql.functionName? name = none ∨ mysql.functionName? name = some name :=
    functionName?_of_mem_formulaFunctions
  have hdate : ∀ date, mysql.Worded date →
      mysql.Worded (callTree "DATE_FORMAT" [date, textTree "%Y%m"]) := by
    intro date h
    refine worded_callTree ?_ (ofTree?_callTree_two _ _ _) (hname (by simp [formulaFunctions]))
    simpa using ⟨h, hliteral _⟩
  have hyear : ∀ date, mysql.Worded date → mysql.Worded (callTree "YEAR" [date]) := by
    intro date h
    refine worded_callTree (by simpa using h) (ofTree?_of_name ?_)
      (hname (by simp [formulaFunctions]))
    rw [renderPath_plain]
    decide
  have hdays : mysql.Worded (callTree "DATEDIFF" [d.stop, d.start]) := by
    refine worded_callTree ?_ (ofTree?_callTree_two _ _ _) (hname (by simp [formulaFunctions]))
    simpa using ⟨hstop, hstart⟩
  unfold formulaTree? at hx
  split at hx
  · cases hx
    exact hdays
  · cases hx
    refine worded_node.2 ⟨inWords_of_callName? rfl, ?_⟩
    simp only [List.forall_mem_singleton]
    refine worded_node.2 ⟨inWords_of_callName? rfl, ?_⟩
    simpa using ⟨hdays, hliteral _⟩
  · cases hx
    refine worded_callTree ?_ (ofTree?_callTree_two _ _ _) (hname (by simp [formulaFunctions]))
    simpa using ⟨hdate _ hstop, hdate _ hstart⟩
  · cases hx
    refine worded_node.2 ⟨inWords_of_callName? rfl, ?_⟩
    simp only [List.forall_mem_singleton]
    refine worded_node.2 ⟨inWords_of_callName? rfl, ?_⟩
    simpa using ⟨hyear _ hstop, hyear _ hstart⟩
  · cases hx
  · cases hx

/-- A tree that has been reworded is in the words of the engine. -/
theorem worded_of_rewords (hback : e.ReadsFormulasBack t) (h : e.Rewords t t') : e.Worded t' := by
  induction t using SyntaxTree.induction generalizing t' with
  | node form parts ih =>
    obtain ⟨parts', hparts, hcases⟩ := h.cases hback
    have hworded : ∀ p' ∈ parts', e.Worded p' := by
      intro p' hp'
      obtain ⟨p, hp, hrewords⟩ := exists_mem_of_forall₂ hparts hp'
      exact ih p hp (hback.part hp) hrewords
    rcases hcases with ⟨rfl, hnode⟩ | ⟨name, nulls, braces, new, rfl, hnew, rfl⟩ | ⟨d, hd, hx⟩
    · exact worded_node.2 ⟨hnode, hworded⟩
    · -- the engine keeps the name that it has given
      obtain ⟨hkept, hdates⟩ := functionName?_settled hnew
      refine worded_node.2 ⟨inWords_call ?_ ?_, hworded⟩
      · by_cases hmysql : e = .mysql
        · rw [ofTree?_of_name]
          · rfl
          · rw [renderPath_plain]
            exact fun h => hdates h hmysql
        · exact bind_formulaTree?_of_ne_mysql hmysql _
      · rw [renderPath_plain]
        exact hkept
    · obtain ⟨_, _, _, _, unique, args, rest, unit, heq, -, hargs, -⟩ := ofTree?_eq_some hd
      obtain ⟨rfl, rfl⟩ := node.inj heq
      -- the dates are among the arguments, which are parts of a part
      have harguments : e.Worded (.clause (.arguments unique) args) := hworded _ (by simp)
      have hall := worded_clause.1 harguments
      have hmem : ∀ a ∈ [textTree unit, d.start, d.stop], a ∈ args := fun a ha =>
        (List.mem_filter.1 (hargs ▸ ha)).1
      exact worded_formulaTree? hx (hall _ (hmem _ (by simp))) (hall _ (hmem _ (by simp)))

/-- A tree that has been reworded is settled. -/
theorem settled_of_rewords (hback : e.ReadsFormulasBack t) (h : e.Rewords t t') : e.Settled t' :=
  (worded_of_rewords hback h).settled

end MetricQuery.Engine
