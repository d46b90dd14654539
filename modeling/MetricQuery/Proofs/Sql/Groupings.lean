import MetricQuery.Proofs.Sql.Operands

/-!
# Groupings — what stands behind `GROUP BY` in a query that has been read

Wherever an expression is to be read one is read, or reading fails. So a `GROUP BY` clause holds an
expression, unless it is `GROUP BY ALL`. In the place of the `FROM` clause there is such a clause, or nothing.
-/

namespace MetricQuery.Sql

open SyntaxTree

theorem SyntaxTree.IsNoNumber.isExpr {t : SyntaxTree} (h : t.IsNoNumber) : t.isExpr = true := by
  obtain ⟨form, hform, -⟩ := h
  rw [SyntaxTree.isExpr, hform]

namespace Grammar

variable {inner : Inner} {operand : Parser SyntaxTree}

/-- Whether a parser reads expressions only. -/
abbrev YieldsExpr (p : Parser SyntaxTree) : Prop :=
  Yields (fun t => t.isExpr = true) p

/-! ## Special forms -/

theorem yieldsExpr_call (name : List Ident) (braces : Bool) :
    YieldsExpr (call inner operand name braces) :=
  (yields_call name braces).mono fun _ => IsNoNumber.isExpr

theorem yieldsExpr_caseForm : YieldsExpr (caseForm inner) := by
  unfold caseForm
  repeat' first
    | exact yields_pure rfl
    | refine yields_bind fun _ => ?_
    | refine yields_ite ?_ ?_

theorem yieldsExpr_castForm (style : CastStyle) : YieldsExpr (castForm inner style) := by
  refine yields_inParens ?_
  repeat' first
    | exact yields_pure rfl
    | refine yields_bind fun _ => ?_

theorem yieldsExpr_convertForm (attempted : Bool) : YieldsExpr (convertForm inner attempted) := by
  refine yields_inParens ?_
  repeat' first
    | exact yields_pure rfl
    | refine yields_bind fun _ => ?_
    | refine yields_ite ?_ ?_

theorem yieldsExpr_extractForm : YieldsExpr (extractForm inner) := by
  refine yields_inParens ?_
  repeat' first
    | exact yields_pure rfl
    | refine yields_bind fun _ => ?_
    | refine yields_ite ?_ ?_

theorem yieldsExpr_positionForm : YieldsExpr (positionForm inner) := by
  refine yields_inParens ?_
  repeat' first
    | exact yields_pure rfl
    | refine yields_bind fun _ => ?_

theorem yieldsExpr_substringForm : YieldsExpr (substringForm inner) := by
  refine yields_inParens ?_
  repeat' first
    | exact yields_pure rfl
    | refine yields_bind fun _ => ?_
    | refine yields_ite ?_ ?_

theorem yieldsExpr_overlayForm : YieldsExpr (overlayForm inner) := by
  refine yields_inParens ?_
  repeat' first
    | exact yields_pure rfl
    | refine yields_bind fun _ => ?_

theorem yieldsExpr_trimForm : YieldsExpr (trimForm inner) := by
  refine yields_inParens ?_
  repeat' first
    | exact yields_pure rfl
    | refine yields_bind fun _ => ?_
    | refine yields_ite ?_ ?_
    | split

theorem yieldsExpr_matchForm : YieldsExpr matchForm := by
  refine yields_bind fun _ => yields_bind fun _ => yields_inParens ?_
  exact yields_bind fun _ => yields_bind fun _ => yields_pure rfl

theorem yieldsExpr_existsForm (negated : Bool) : YieldsExpr (existsForm inner negated) :=
  yields_inParens (yields_bind fun _ => yields_pure rfl)

theorem yieldsExpr_notForm : YieldsExpr (notForm inner) :=
  yields_bind fun _ =>
    yields_ite (yieldsExpr_existsForm true) (yields_bind fun _ => yields_pure rfl)

theorem yieldsExpr_arrayForm (isNamed : Bool) : YieldsExpr (arrayForm inner isNamed) :=
  yields_bind fun _ => yields_bind fun _ => yields_pure rfl

theorem yieldsExpr_compositeForm : YieldsExpr (compositeForm inner) := by
  unfold compositeForm
  repeat' first
    | exact yields_inParens (yields_bind fun _ => yields_pure rfl)
    | refine yields_bind fun _ => ?_
    | refine yields_ite ?_ ?_

theorem yieldsExpr_mapForm : YieldsExpr (mapForm inner) := by
  unfold mapForm
  repeat' first
    | exact yields_pure rfl
    | refine yields_bind fun _ => ?_
    | refine yields_ite ?_ ?_

theorem yieldsExpr_bracesForm : YieldsExpr (bracesForm inner operand) := by
  unfold bracesForm
  have hcall : YieldsExpr (do keyword "FN"; call inner operand (← path) true) :=
    yields_bind fun _ => yields_bind fun _ => yieldsExpr_call _ _
  refine yields_bind_of (yields_attempt hcall) fun o ho => ?_
  cases o with
  | some t => exact yields_bind fun _ => yields_pure (ho t rfl)
  | none => exact yields_bind fun _ => yields_bind fun _ => yields_pure rfl

theorem yieldsExpr_roundingForm {form : RoundingUnit → ExprForm}
    (h : ∀ unit text long, form unit ≠ .literal (.number text long)) :
    YieldsExpr (roundingForm inner form) :=
  (yields_roundingForm h).mono fun _ => IsNoNumber.isExpr

theorem yieldsExpr_interval : YieldsExpr (interval operand) :=
  yields_bind fun _ => yields_bind fun _ => yields_pure rfl

theorem yieldsExpr_openedForm? {w : Word} {form : Parser SyntaxTree}
    (h : openedForm? inner operand w = some form) : YieldsExpr form := by
  unfold openedForm? at h
  -- the words in the order in which they are told apart
  split at h <;> cases h
  case h_1 | h_2 | h_3 | h_4 | h_5 | h_6 | h_7 => exact yields_pure rfl
  case h_8 | h_9 | h_10 | h_11 | h_12 =>
    exact yields_bind fun _ => yields_ite (yields_bind fun _ => yields_pure rfl) (yields_pure rfl)
  case h_13 => exact yieldsExpr_caseForm
  case h_14 | h_15 => exact yieldsExpr_convertForm _
  case h_16 | h_17 | h_18 => exact yieldsExpr_castForm _
  case h_19 => exact yieldsExpr_existsForm false
  case h_20 => exact yieldsExpr_extractForm
  case h_21 | h_22 => exact yieldsExpr_roundingForm nofun
  case h_23 => exact yieldsExpr_substringForm
  case h_24 => exact yieldsExpr_overlayForm
  case h_25 => exact yieldsExpr_trimForm
  case h_26 => exact yieldsExpr_interval
  case h_27 => exact yieldsExpr_notForm
  case h_28 => exact yieldsExpr_matchForm
  case h_29 => exact yieldsExpr_compositeForm

theorem yieldsExpr_specialForm? {w : Word} {ahead : Option Token} {form : Parser SyntaxTree}
    (h : specialForm? inner operand w ahead = some form) : YieldsExpr form := by
  unfold specialForm? at h
  split at h
  · cases h
    refine yields_bind_of (yields_attempt yieldsExpr_positionForm) fun o ho => ?_
    cases o with
    | some t => exact yields_pure (ho t rfl)
    | none => exact yieldsExpr_call _ _
  · cases h
    exact yields_bind fun _ => yieldsExpr_arrayForm true
  · cases h
    exact yields_bind fun _ => yields_pure rfl
  · cases h
    exact yieldsExpr_mapForm
  · split at h <;> cases h
    exact yields_bind fun _ => yields_pure rfl
  · exact yieldsExpr_openedForm? h

/-! ## Operands -/

theorem yieldsExpr_collated {t : SyntaxTree} (h : t.isExpr = true) : YieldsExpr (collated t) :=
  yields_bind fun _ => yields_ite (yields_bind fun _ => yields_pure rfl) (yields_pure h)

theorem yieldsExpr_nameForm (w : Word) : YieldsExpr (nameForm inner operand w) :=
  (yields_nameForm w).mono fun _ => IsNoNumber.isExpr

theorem yieldsExpr_wordForm (w : Word) : YieldsExpr (wordForm inner operand w) := by
  refine yields_bind fun ahead => ?_
  split
  · exact yields_bind_of (yieldsExpr_nameForm w) fun _ => yieldsExpr_collated
  · next form heq =>
    have hform := yieldsExpr_specialForm? heq
    refine yields_ite (yields_bind_of hform fun _ => yieldsExpr_collated) ?_
    have hpair : Yields (fun p : SyntaxTree × Bool => p.1.isExpr = true)
        (either (return (← form, true)) (return (← nameForm inner operand w, false))) :=
      yields_either (yields_bind_of hform fun _ h => yields_pure h)
        (yields_bind_of (yieldsExpr_nameForm w) fun _ h => yields_pure h)
    exact yields_bind_of hpair fun p hp => yields_ite (yieldsExpr_collated hp) (yields_pure hp)

theorem yieldsExpr_simpleOperand : YieldsExpr (simpleOperand inner operand) := by
  refine yields_bind fun start => yields_bind fun t => ?_
  split
  · exact yieldsExpr_wordForm _
  · exact yields_bind_of (yieldsExpr_arrayForm false) fun _ => yieldsExpr_collated
  · exact yields_bind_of yieldsExpr_bracesForm fun _ => yieldsExpr_collated
  · exact yields_bind fun _ => yieldsExpr_collated rfl
  · exact yields_bind fun _ => yieldsExpr_collated rfl
  · exact yields_bind_of (yields_parenForm.mono fun _ => IsNoNumber.isExpr) fun _ =>
      yieldsExpr_collated
  · exact yields_bind fun _ => yields_bind fun _ => yieldsExpr_collated rfl

theorem yieldsExpr_typedForm : YieldsExpr (typedForm inner operand) :=
  yields_typedForm.mono fun _ => IsNoNumber.isExpr

theorem yieldsExpr_operandWithin (rounds : Nat) : YieldsExpr (operandWithin inner rounds) := by
  cases rounds with
  | zero => exact yields_unexpected
  | succ rounds =>
    refine yields_bind_of (yields_attempt yieldsExpr_typedForm) fun o ho => ?_
    cases o with
    | some t => exact yields_pure (ho t rfl)
    | none => exact yieldsExpr_simpleOperand

/-- Behind an operand, operators make an expression of what is there. -/
theorem yieldsExpr_operators {left : SyntaxTree} (precedence rounds : Nat)
    (h : left.isExpr = true) : YieldsExpr (operators inner precedence rounds left) := by
  cases rounds with
  | zero => exact yields_pure h
  | succ rounds =>
    refine yields_bind fun tokens => yields_ite (yields_pure h) ?_
    exact yields_bind_of (yields_operatorStep inner left _) fun _ hstep =>
      (yields_operators precedence rounds hstep).mono fun _ => IsNoNumber.isExpr

/-- Where an expression is to be read, one is read. -/
theorem yieldsExpr_nested (depth : Nat) (links : Bool) : YieldsExpr (nested depth links).whole := by
  cases depth with
  | zero =>
    intro tokens a rest h
    cases h
  | succ depth =>
    refine yields_bind_of ?_ fun left hleft => yields_bind fun rounds =>
      yieldsExpr_operators 0 rounds hleft
    exact yields_bind fun rounds => yieldsExpr_operandWithin _

/-! ## Groupings -/

/-- What may stand in the place of a `GROUP BY` clause in a query that has been read: nothing,
`GROUP BY ALL`, or a list that has an expression in it. -/
inductive ReadGrouping : SyntaxTree → Prop
  | absent : ReadGrouping .absent
  | all (modifiers : List GroupingModifier) : ReadGrouping (.clause (.groupByAll modifiers) [])
  | list (modifiers : List GroupingModifier) {items : List SyntaxTree}
    (hitems : ∃ item ∈ items, item.isExpr = true) :
    ReadGrouping (.clause (.groupBy modifiers) items)

theorem yieldsExpr_groupingExpr (h : YieldsExpr inner.whole) : YieldsExpr (groupingExpr inner) := by
  refine yields_bind fun _ => yields_ite (yields_bind fun _ => yields_pure rfl) ?_
  refine yields_bind fun _ => yields_ite (yields_bind fun _ => yields_pure rfl) ?_
  refine yields_bind fun _ => yields_ite (yields_bind fun _ => yields_pure rfl) ?_
  refine yields_bind fun tokens => ?_
  split
  · exact yields_bind fun _ => yields_pure rfl
  · exact h

theorem yields_grouping? (h : YieldsExpr inner.whole) : Yields ReadGrouping (grouping? inner) := by
  refine yields_bind fun _ =>
    yields_ite (yields_bind fun _ => yields_ite ?_ ?_) (yields_pure .absent)
  · exact yields_bind fun _ => yields_bind fun _ => yields_pure (.all _)
  · exact yields_bind_of (yields_commaList (yieldsExpr_groupingExpr h)) fun _ hitems =>
      yields_bind fun _ => yields_bind fun _ => yields_pure (.list _ hitems)

/-- What is known of a `SELECT` that has been read. -/
structure SelectRead (s : Select) : Prop where
  grouping : ReadGrouping s.grouping
  /-- In the place of the `FROM` clause there is one, or nothing. -/
  sources : s.sources = .absent ∨ ∃ tables, s.sources = .clause .from tables

/-- Whether this is known of a tree, if it is a `SELECT`. -/
def BodyRead (t : SyntaxTree) : Prop :=
  ∀ s, Select.ofTree? t = some s → SelectRead s

theorem yields_select (h : YieldsExpr inner.whole) : Yields SelectRead (select inner) := by
  unfold select
  refine yields_bind fun _ => yields_bind fun _ => yields_bind fun _ => yields_bind fun _ => ?_
  refine yields_bind fun _ => ?_
  extract_lets rest
  -- what follows the tables, the clause among it
  have hrest : ∀ sources, (sources = .absent ∨ ∃ tables, sources = .clause .from tables) →
      Yields SelectRead (rest sources) := by
    intro sources hsources
    refine yields_bind fun _ => yields_bind fun _ => yields_bind fun _ => ?_
    refine yields_bind_of (yields_grouping? h) fun grouping hgrouping => ?_
    repeat' first
      | exact yields_pure ⟨hgrouping, hsources⟩
      | refine yields_bind fun _ => ?_
      | refine yields_ite ?_ ?_
  refine yields_ite (yields_bind fun tables => ?_) ?_
  · exact yields_bind_of (yields_pure (.inr ⟨tables, rfl⟩)) hrest
  · exact yields_bind_of (yields_pure (.inl rfl)) hrest

theorem yields_simpleBody (h : YieldsExpr inner.whole) : Yields BodyRead (simpleBody inner) := by
  refine yields_bind fun _ => yields_ite ?_ (yields_bind fun _ => yields_ite ?_ ?_)
  · refine yields_bind_of (yields_select h) fun s hs => yields_pure fun own hown => ?_
    obtain rfl : s = own := Option.some.inj hown
    exact hs
  · exact yields_bind fun _ => yields_bind fun _ => yields_pure nofun
  · refine yields_bind fun _ => yields_ite (yields_bind fun _ => yields_pure nofun) ?_
    refine yields_bind fun _ => yields_bind fun tokens => yields_bind fun _ => yields_ite ?_ ?_
    · exact yields_bind fun _ => yields_bind fun _ => yields_pure nofun
    · exact yields_bind fun _ => yields_pure nofun

theorem yields_setOperations {left : SyntaxTree} (rounds : Nat) (h : BodyRead left) :
    Yields BodyRead (setOperations inner rounds left) := by
  induction rounds generalizing left with
  | zero => exact yields_pure h
  | succ rounds ih =>
    refine yields_bind fun k => ?_
    split
    · exact yields_pure h
    · refine yields_bind fun _ => yields_bind fun _ => ?_
      extract_lets joined
      -- two bodies joined are no `SELECT`, so that nothing has to be known of them
      have hjoined : ∀ sides, Yields BodyRead (joined sides) := fun _ => ih nofun
      split
      · exact yields_bind hjoined
      · exact yields_bind fun _ => yields_bind hjoined
      · exact yields_bind fun _ => yields_bind hjoined

theorem yields_body (h : YieldsExpr inner.whole) : Yields BodyRead (body inner) :=
  yields_bind_of (yields_simpleBody h) fun _ hfirst => yields_bind fun _ =>
    yields_setOperations _ hfirst

theorem yields_readingQuery (h : YieldsExpr inner.whole) (commonTables : SyntaxTree) :
    Yields (fun q : Query => BodyRead q.body) (readingQuery inner commonTables) := by
  refine yields_bind_of (yields_body h) fun body hbody => ?_
  repeat' first
    | exact yields_pure hbody
    | refine yields_bind fun _ => ?_
    | refine yields_ite ?_ ?_

theorem yields_insert : Yields BodyRead (insert inner) := by
  unfold insert
  repeat' first
    | exact yields_pure nofun
    | exact yields_bind fun _ => yields_bind fun _ => yields_bind fun _ => yields_pure nofun
    | refine yields_bind fun _ => ?_
    | refine yields_ite ?_ ?_

theorem yields_update : Yields BodyRead (update inner) := by
  unfold update
  repeat' first
    | exact yields_pure nofun
    | refine yields_bind fun _ => ?_
    | refine yields_ite ?_ ?_

theorem yields_queryOver (h : YieldsExpr inner.whole) :
    Yields (fun q : Query => BodyRead q.body) (queryOver inner) := by
  refine yields_bind fun _ => yields_bind fun _ => yields_ite ?_ ?_
  · exact yields_bind_of yields_insert fun _ hbody => yields_pure hbody
  · refine yields_bind fun _ => yields_ite ?_ (yields_readingQuery h _)
    exact yields_bind_of yields_update fun _ hbody => yields_pure hbody

/-- The same for the body of a statement that is a query. -/
def Statement.Read (s : Statement) : Prop :=
  ∀ q, s = .query q → BodyRead q.body

theorem yields_queryStatement (depth : Nat) : Yields Statement.Read (queryStatement depth) := by
  cases depth with
  | zero =>
    intro tokens a rest h
    cases h
  | succ depth =>
    refine yields_bind_of (yields_queryOver (yieldsExpr_nested depth false)) fun q hq => ?_
    refine yields_pure fun own hown => ?_
    obtain rfl := Statement.query.inj hown
    exact hq

theorem yields_statementWithin (depth : Nat) : Yields Statement.Read (statementWithin depth) := by
  cases depth with
  | zero =>
    intro tokens a rest h
    cases h
  | succ depth =>
    refine yields_bind fun ahead => ?_
    split
    · exact yields_queryStatement depth
    · refine yields_ite (yields_queryStatement depth) (yields_bind fun _ => yields_ite ?_ ?_)
      · exact yields_bind fun _ => yields_pure fun q hq => by cases hq
      · exact yields_bind fun _ => yields_pure fun q hq => by cases hq
    · exact yields_unexpected

theorem yields_statementsOver {statement : Parser Statement} (h : Yields Statement.Read statement)
    (rounds : Nat) (needsSemicolon : Bool) :
    Yields (fun ss => ∀ s ∈ ss, s.Read) (statementsOver statement rounds needsSemicolon) := by
  induction rounds generalizing needsSemicolon with
  | zero => exact yields_unexpected
  | succ rounds ih =>
    refine yields_bind fun parted => yields_bind fun ahead => ?_
    split
    · exact yields_pure (List.forall_mem_nil _)
    · refine yields_ite (yields_ite (yields_pure (List.forall_mem_nil _)) yields_unexpected) ?_
      refine yields_bind_of h fun s hs => yields_bind_of (ih true) fun ss hss => yields_pure ?_
      exact List.forall_mem_cons.2 ⟨hs, hss⟩

end Grammar

theorem exists_statements_of_parse {text : String} {q : Query} (h : Query.parse text = .ok q) :
    ∃ tokens rest, Grammar.statements tokens = .ok ([.query q], rest) := by
  unfold Query.parse readStatements? readFront? at h
  split at h
  · cases h
  · next heq =>
    split at heq
    · cases heq
    · split at heq
      · next hread =>
        cases heq
        cases h
        exact ⟨_, _, hread⟩
      · cases heq
  · cases h
  · cases h

theorem selectRead_of_parse {text : String} {q : Query} {s : Select}
    (hread : Query.parse text = .ok q) (hs : q.select? = some s) : Grammar.SelectRead s := by
  obtain ⟨tokens, rest, hstatement⟩ := exists_statements_of_parse hread
  have hall : Grammar.Yields (fun ss => ∀ s ∈ ss, s.Read) Grammar.statements :=
    Grammar.yields_bind fun rounds =>
      Grammar.yields_statementsOver (Grammar.yields_statementWithin _) _ _
  exact hall _ _ _ hstatement (.query q) (.head _) q rfl s hs

/-- The `GROUP BY` clause of a query that has been read is `GROUP BY ALL` or holds an expression. -/
theorem readGrouping_of_parse {text : String} {q : Query} {s : Select}
    (hread : Query.parse text = .ok q) (hs : q.select? = some s) :
    Grammar.ReadGrouping s.grouping :=
  (selectRead_of_parse hread hs).grouping

end MetricQuery.Sql
