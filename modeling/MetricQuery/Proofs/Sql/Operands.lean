import MetricQuery.Sql.Statement

/-!
# Operands — what is read behind a word or a parenthesis

A number is read where a token is one. An expression that opens with the name of a function or with
a parenthesis is none, whatever stands behind.
-/

namespace MetricQuery.Sql

open SyntaxTree MetricQuery.Text

/-- Whether a node is an expression other than a number. -/
def SyntaxTree.IsNoNumber (t : SyntaxTree) : Prop :=
  ∃ form, t.form = .expr form ∧ ∀ text long, form ≠ .literal (.number text long)

theorem SyntaxTree.isNoNumber {form : ExprForm} {parts : List SyntaxTree}
    (h : ∀ text long, form ≠ .literal (.number text long)) : (expr form parts).IsNoNumber :=
  ⟨form, rfl, h⟩

namespace Grammar

variable {α β : Type} {P : α → Prop} {Q : β → Prop}

/-! ## What a parser yields -/

/-- Whether all that a parser reads has a property. -/
def Yields (P : α → Prop) (p : Parser α) : Prop :=
  ∀ tokens a rest, p tokens = .ok (a, rest) → P a

theorem yields_pure {a : α} (h : P a) : Yields P (pure a) := by
  intro tokens b rest hb
  cases hb
  exact h

theorem yields_unexpected : Yields P unexpected := by
  intro tokens a rest h
  cases h

/-- What one parser leaves, the parser behind it reads. -/
theorem exists_of_bind {p : Parser β} {f : β → Parser α} {tokens rest : List Token} {a : α}
    (h : (p >>= f) tokens = .ok (a, rest)) :
    ∃ b left, p tokens = .ok (b, left) ∧ f b left = .ok (a, rest) := by
  simp only [bind, StateT.bind, Except.bind] at h
  split at h
  · cases h
  · next r hr => exact ⟨r.1, r.2, hr, h⟩

theorem yields_bind_of {p : Parser β} {f : β → Parser α} (hp : Yields Q p)
    (hf : ∀ b, Q b → Yields P (f b)) : Yields P (p >>= f) := by
  intro tokens a rest h
  obtain ⟨b, left, hb, ha⟩ := exists_of_bind h
  exact hf b (hp _ _ _ hb) _ _ _ ha

/-- What is read first does not matter where what is read last has the property. -/
theorem yields_bind {p : Parser β} {f : β → Parser α} (hf : ∀ b, Yields P (f b)) :
    Yields P (p >>= f) :=
  yields_bind_of (fun _ _ _ _ => trivial) fun b (_ : True) => hf b

theorem Yields.mono {Q : α → Prop} {p : Parser α} (h : Yields P p) (himp : ∀ a, P a → Q a) :
    Yields Q p :=
  fun tokens a rest ha => himp a (h tokens a rest ha)

theorem yields_ite {c : Prop} [Decidable c] {p q : Parser α} (hp : Yields P p) (hq : Yields P q) :
    Yields P (if c then p else q) := by
  split
  · exact hp
  · exact hq

/-- What has been tried in vain leaves the tokens as they were. -/
theorem attempt_cases {p : Parser α} {tokens rest : List Token} {o : Option α}
    (h : attempt p tokens = .ok (o, rest)) :
    (∃ a, o = some a ∧ p tokens = .ok (a, rest)) ∨ (o = none ∧ rest = tokens) := by
  unfold attempt at h
  split at h
  · next hp =>
    cases h
    exact .inl ⟨_, rfl, hp⟩
  · cases h
    exact .inr ⟨rfl, rfl⟩
  · cases h

theorem yields_attempt {p : Parser α} (h : Yields P p) :
    Yields (fun o => ∀ a ∈ o, P a) (attempt p) := by
  intro tokens o rest ho a ha
  rcases attempt_cases ho with ⟨own, rfl, hown⟩ | ⟨rfl, -⟩
  · obtain rfl := Option.some.inj ha
    exact h _ _ _ hown
  · cases ha

theorem yields_either {p q : Parser α} (hp : Yields P p) (hq : Yields P q) :
    Yields P (either p q) := by
  intro tokens a rest h
  unfold either at h
  split at h
  · next hread =>
    cases h
    exact hp _ _ _ hread
  · split at h
    · next hread =>
      cases h
      exact hq _ _ _ hread
    · cases h

theorem yields_inParens {p : Parser α} (h : Yields P p) : Yields P (inParens p) :=
  yields_bind fun _ => yields_bind_of h fun _ ha => yields_bind fun _ => yields_pure ha

theorem yields_commaList {p : Parser α} (h : Yields P p) :
    Yields (fun as => ∃ a ∈ as, P a) (commaList p) :=
  yields_bind_of h fun a ha =>
    yields_bind fun _ => yields_bind fun _ => yields_pure ⟨a, .head _, ha⟩

/-! ## Operators -/

variable {inner : Inner} {operand : Parser SyntaxTree} {left : SyntaxTree}

theorem yields_binary (op : BinaryOp) (precedence : Nat) :
    Yields IsNoNumber (binary inner left op precedence) := by
  unfold binary
  refine yields_bind fun quantifier => ?_
  cases quantifier with
  | none => exact yields_bind fun _ => yields_pure (isNoNumber nofun)
  | some k =>
    refine yields_bind fun _ => yields_ite ?_ (yields_bind fun _ => ?_)
    · exact yields_pure (isNoNumber nofun)
    · exact yields_pure (isNoNumber nofun)

theorem yields_isForm : Yields IsNoNumber (isForm inner left) := by
  unfold isForm
  refine yields_bind fun negated => yields_bind fun k => ?_
  split
  all_goals first
    | exact yields_pure (isNoNumber nofun)
    | exact yields_bind fun _ => yields_bind fun _ => yields_pure (isNoNumber nofun)

theorem yields_inForm (negated : Bool) : Yields IsNoNumber (inForm inner left negated) := by
  unfold inForm
  refine yields_bind fun _ => yields_ite ?_ ?_
  · exact yields_bind fun _ => yields_pure (isNoNumber nofun)
  · refine yields_inParens (yields_bind fun _ => yields_ite ?_ ?_)
    · exact yields_bind fun _ => yields_pure (isNoNumber nofun)
    · exact yields_bind fun _ => yields_pure (isNoNumber nofun)

theorem yields_betweenForm (negated : Bool) :
    Yields IsNoNumber (betweenForm inner left negated) :=
  yields_bind fun _ => yields_bind fun _ => yields_bind fun _ => yields_pure (isNoNumber nofun)

theorem yields_patternForm (negated : Bool) (kind : PatternKind) (anyOf escapes : Bool) :
    Yields IsNoNumber (patternForm inner left negated kind anyOf escapes) := by
  unfold patternForm
  repeat' first
    | exact yields_pure (isNoNumber nofun)
    | refine yields_bind fun _ => ?_
    | refine yields_ite ?_ ?_

theorem yields_testForm : Yields IsNoNumber (testForm inner left) := by
  unfold testForm
  repeat' first
    | exact yields_patternForm _ _ _ _
    | exact yields_inForm _
    | exact yields_betweenForm _
    | refine yields_bind fun _ => ?_
    | refine yields_ite ?_ ?_

theorem yields_subscript : Yields IsNoNumber (subscript inner left) := by
  unfold subscript
  repeat' first
    | exact yields_pure (isNoNumber nofun)
    | refine yields_bind fun _ => ?_
    | refine yields_ite ?_ ?_

/-- An operator makes an expression that is no number of whatever stands on its left. -/
theorem yields_operatorStep (inner : Inner) (left : SyntaxTree) (precedence : Nat) :
    Yields IsNoNumber (operatorStep inner left precedence) := by
  unfold operatorStep
  refine yields_bind fun start => yields_bind fun t => ?_
  split
  · exact yields_binary _ _
  · split
    · exact yields_bind fun _ => yields_pure (isNoNumber nofun)
    · exact yields_subscript
    · split
      · exact yields_bind fun _ => yields_binary _ _
      · exact yields_isForm
      · exact yields_bind fun _ => yields_bind fun _ => yields_pure (isNoNumber nofun)
      · exact yields_bind fun _ => yields_testForm

/-- So what an expression begins with decides. -/
theorem yields_operators (precedence rounds : Nat) (h : left.IsNoNumber) :
    Yields IsNoNumber (operators inner precedence rounds left) := by
  induction rounds generalizing left with
  | zero => exact yields_pure h
  | succ rounds ih =>
    refine yields_bind fun tokens => yields_ite (yields_pure h) ?_
    exact yields_bind_of (yields_operatorStep inner left _) fun _ hstep => ih hstep

/-! ## Operands -/

theorem yields_call (name : List Ident) (braces : Bool) :
    Yields IsNoNumber (call inner operand name braces) := by
  unfold call
  repeat' first
    | exact yields_pure (isNoNumber nofun)
    | refine yields_bind fun _ => ?_
    | refine yields_ite ?_ ?_

theorem yields_collated {t : SyntaxTree} (h : t.IsNoNumber) : Yields IsNoNumber (collated t) :=
  yields_bind fun _ => yields_ite (yields_bind fun _ => yields_pure (isNoNumber nofun))
    (yields_pure h)

theorem yields_roundingForm {form : RoundingUnit → ExprForm}
    (h : ∀ unit text long, form unit ≠ .literal (.number text long)) :
    Yields IsNoNumber (roundingForm inner form) := by
  refine yields_inParens ?_
  repeat' first
    | exact yields_pure (isNoNumber (h _))
    | refine yields_bind fun _ => ?_
    | refine yields_ite ?_ ?_
    | split

theorem yields_introduced? (w : Word) :
    Yields (fun o => ∀ t ∈ o, t.IsNoNumber) (introduced? w) := by
  unfold introduced?
  refine yields_bind fun tokens => ?_
  split
  · refine yields_ite (yields_bind fun _ => yields_pure fun t ht => ?_) (yields_pure nofun)
    obtain rfl := Option.some.inj ht
    exact isNoNumber nofun
  · exact yields_pure nofun

theorem yields_nameForm (w : Word) : Yields IsNoNumber (nameForm inner operand w) := by
  unfold nameForm
  refine yields_bind_of (yields_introduced? w) fun introduced hintroduced => ?_
  cases introduced with
  | some t => exact yields_pure (hintroduced t rfl)
  | none =>
    refine yields_bind fun _ => yields_bind fun _ => yields_bind fun _ => yields_ite ?_ ?_
    · exact yields_call _ _
    · exact yields_pure (isNoNumber nofun)

theorem yields_parenForm : Yields IsNoNumber (parenForm inner) := by
  unfold parenForm
  refine yields_bind fun _ =>
    yields_ite (yields_bind fun _ => ?query) (yields_bind fun items => ?list)
  case' list =>
    dsimp only
    split
  -- a query, an expression and a tuple go on in the same way: a field of each may be asked for
  all_goals
    refine yields_bind_of (yields_pure (isNoNumber nofun)) fun t ht => ?_
    refine yields_bind fun _ => yields_bind fun _ =>
      yields_ite (yields_bind fun _ => ?_) (yields_pure ht)
    split
    · exact yields_pure (isNoNumber nofun)
    · exact yields_unexpected

theorem yields_typedForm : Yields IsNoNumber (typedForm inner operand) := by
  unfold typedForm
  refine yields_bind fun type => ?_
  split
  · exact yields_bind fun _ => yields_bind fun _ => yields_pure (isNoNumber nofun)
  · exact yields_unexpected
  · exact yields_bind fun _ => yields_pure (isNoNumber nofun)

/-! ## What opens an expression -/

/-- The names of functions that are read behind no keyword, or that open a rounding. -/
def OpensNoNumber : Token → Prop
  | .word w => ∀ (inner : Inner) (operand : Parser SyntaxTree) ahead,
    ∀ form ∈ specialForm? inner operand w ahead, Yields IsNoNumber form
  | .symbol .leftParen => True
  | _ => False

theorem yields_wordForm {w : Word} (h : OpensNoNumber (.word w)) :
    Yields IsNoNumber (wordForm inner operand w) := by
  unfold wordForm
  refine yields_bind fun ahead => ?_
  have hform := h inner operand ahead
  split
  · exact yields_bind_of (yields_nameForm w) fun _ => yields_collated
  · next form heq =>
    have hyields := hform form heq
    refine yields_ite (yields_bind_of hyields fun _ => yields_collated) ?_
    -- the word may also be a name, if the form that it opens cannot be read
    have hpair : Yields (fun p : SyntaxTree × Bool => p.1.IsNoNumber)
        (either (return (← form, true)) (return (← nameForm inner operand w, false))) :=
      yields_either (yields_bind_of hyields fun _ h => yields_pure h)
        (yields_bind_of (yields_nameForm w) fun _ h => yields_pure h)
    exact yields_bind_of hpair fun p hp => yields_ite (yields_collated hp) (yields_pure hp)

variable {t : Token} {tokens rest : List Token} {a : SyntaxTree}

theorem isNoNumber_of_simpleOperand (h : OpensNoNumber t)
    (hread : simpleOperand inner operand (t :: tokens) = .ok (a, rest)) : a.IsNoNumber := by
  cases t with
  | word w => exact yields_wordForm h _ _ _ hread
  | symbol s =>
    cases s with
    | leftParen =>
      exact yields_bind_of yields_parenForm (fun _ => yields_collated) tokens _ _ hread
    | _ => exact h.elim
  | _ => exact h.elim

theorem isNoNumber_of_operandWithin (h : OpensNoNumber t) {rounds : Nat}
    (hread : operandWithin inner rounds (t :: tokens) = .ok (a, rest)) : a.IsNoNumber := by
  cases rounds with
  | zero => cases hread
  | succ rounds =>
    obtain ⟨typed, left, htyped, hread⟩ := exists_of_bind hread
    rcases attempt_cases htyped with ⟨own, rfl, hown⟩ | ⟨rfl, rfl⟩
    · obtain rfl : own = a := (Prod.mk.inj (Except.ok.inj hread)).1
      exact yields_typedForm _ _ _ hown
    · exact isNoNumber_of_simpleOperand h hread

/-- An expression that opens with such a token is no number. -/
theorem isNoNumber_of_exprOver (h : OpensNoNumber t) {precedence : Nat}
    (hread : exprOver inner precedence (t :: tokens) = .ok (a, rest)) : a.IsNoNumber := by
  obtain ⟨own, left, hown, hread⟩ := exists_of_bind hread
  obtain ⟨rounds, _, hrounds, hown⟩ := exists_of_bind hown
  obtain ⟨rfl, rfl⟩ := Prod.mk.inj (Except.ok.inj hrounds)
  have hfirst : own.IsNoNumber := isNoNumber_of_operandWithin h hown
  exact yields_bind (fun rounds => yields_operators precedence rounds hfirst) _ _ _ hread

end Grammar

/-! ## Texts -/

/-- The first token of a text, if no comment and no blank stands in front of it. -/
theorem exists_of_scanTokens? {fuel : Nat} {c : Char} {cs after : List Char} {token : Token}
    {tokens : List Token} (hcomment : c ≠ '-' ∧ c ≠ '/') (hblank : isBlank c = false)
    (htoken : scanToken? c cs = some (token, after))
    (h : scanTokens? (fuel + 1) (c :: cs) = some tokens) : ∃ more, tokens = token :: more := by
  unfold scanTokens? at h
  split at h
  · exact absurd rfl hcomment.1
  · exact absurd rfl hcomment.2
  · rw [hblank, htoken] at h
    obtain ⟨more, -, hmore⟩ := Option.bind_eq_some_iff.1 h
    exact ⟨more, (Option.some.inj hmore).symm⟩

/-- What is read from a text is no number if the token in front opens none. -/
theorem isNoNumber_of_parseExpr {opening rest : String} {c : Char} {cs : List Char} {token : Token}
    {t : SyntaxTree} (hopens : Grammar.OpensNoNumber token) (hopening : opening.toList = c :: cs)
    (hcomment : c ≠ '-' ∧ c ≠ '/') (hblank : isBlank c = false)
    (htoken : ∀ behind, ∃ after, scanToken? c (cs ++ behind) = some (token, after))
    (h : parseExpr (opening ++ rest) = .ok t) : t.IsNoNumber := by
  unfold parseExpr readFront? at h
  cases htokens : Token.scan? (opening ++ rest) with
  | none =>
    rw [htokens] at h
    cases h
  | some tokens =>
    rw [htokens] at h
    obtain ⟨after, hafter⟩ := htoken rest.toList
    rw [Token.scan?, String.toList_append, hopening, List.cons_append] at htokens
    -- the first token is known, whatever the rest of the text is
    obtain ⟨more, rfl⟩ := exists_of_scanTokens? hcomment hblank hafter htokens
    dsimp only at h
    split at h
    · next heq =>
      split at heq
      · next hread =>
        obtain rfl := Option.some.inj heq
        obtain rfl := Except.ok.inj h
        exact Grammar.isNoNumber_of_exprOver hopens hread
      · cases heq
    · cases h

end MetricQuery.Sql
