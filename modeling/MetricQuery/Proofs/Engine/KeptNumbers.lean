import MetricQuery.Proofs.Engine.Rewording
import MetricQuery.Proofs.Sql.Clausewise
import MetricQuery.Proofs.Sql.Operands

/-!
# Kept numbers — the limit of a query in the words of an engine

Rewording keeps the number that a query is limited to, and it makes no number of another limit: a
formula opens with the name of a function or with a parenthesis, so whatever is read from its text
is no number. Nothing is assumed of the reading beyond that.
-/

namespace MetricQuery.Engine

open MetricQuery.Sql MetricQuery.Sql.SyntaxTree MetricQuery.Sql.Grammar MetricQuery.Text

variable {e : Engine} {t t' : SyntaxTree}

/-! ## Formulas -/

theorem opensNoNumber_of_none {w : Word}
    (h : ∀ inner operand ahead, specialForm? inner operand w ahead = none) :
    OpensNoNumber (.word w) := by
  intro inner operand ahead form hform
  rw [h] at hform
  cases hform

/-- The words that a formula may open with are keywords as they stand. -/
theorem keyword_bare {name : String} (h : name ∈ ["DATEDIFF", "PERIOD_DIFF", "FLOOR"]) :
    (Word.bare name).keyword = name := by
  revert name
  decide +kernel

/-- The two functions that a formula may open with have no special form. -/
theorem opensNoNumber_of_function {name : String} (h : name = "DATEDIFF" ∨ name = "PERIOD_DIFF") :
    OpensNoNumber (.word (.bare name)) := by
  have hkeyword : (Word.bare name).keyword = name := keyword_bare (by grind)
  refine opensNoNumber_of_none fun inner operand ahead => ?_
  unfold specialForm? openedForm?
  rw [hkeyword]
  rcases h with rfl | rfl <;> rfl

theorem opensNoNumber_floor : OpensNoNumber (.word (.bare "FLOOR")) := by
  have hkeyword : (Word.bare "FLOOR").keyword = "FLOOR" := keyword_bare (by simp)
  intro inner operand ahead form hform
  have hrounding : specialForm? inner operand (.bare "FLOOR") ahead
      = some (roundingForm inner .floor) := by
    unfold specialForm? openedForm?
    rw [hkeyword]
    rfl
  obtain rfl := Option.some.inj (hrounding.symm.trans hform)
  exact yields_roundingForm nofun

/-- What is read from the text of a formula is no number, whatever the dates are. -/
theorem isNoNumber_of_dateFormula? {unit : DateUnit} {start stop text : String}
    (hformula : e.dateFormula? unit start stop = some text) (h : parseExpr text = .ok t) :
    t.IsNoNumber := by
  obtain rfl : e = .mysql := by
    cases e with
    | mysql => rfl
    | clickhouse => cases hformula
    | h2 => cases hformula
  -- one case for each way in which a formula begins
  cases unit with
  | day =>
    obtain rfl := Option.some.inj hformula
    simp only [String.append_assoc] at h
    exact isNoNumber_of_parseExpr (opensNoNumber_of_function (.inl rfl)) rfl (by decide)
      (by decide) (fun _ => ⟨_, rfl⟩) h
  | week =>
    obtain rfl := Option.some.inj hformula
    simp only [String.append_assoc] at h
    exact isNoNumber_of_parseExpr opensNoNumber_floor rfl (by decide) (by decide)
      (fun _ => ⟨_, rfl⟩) h
  | month =>
    obtain rfl := Option.some.inj hformula
    simp only [String.append_assoc] at h
    exact isNoNumber_of_parseExpr (opensNoNumber_of_function (.inr rfl)) rfl (by decide)
      (by decide) (fun _ => ⟨_, rfl⟩) h
  | year =>
    obtain rfl := Option.some.inj hformula
    simp only [String.append_assoc] at h
    have hopens : OpensNoNumber (.symbol .leftParen) := trivial
    exact isNoNumber_of_parseExpr hopens rfl (by decide) (by decide) (fun _ => ⟨_, rfl⟩) h

/-! ## Nodes -/

/-- Whatever has become a number or a clause has been left as it was. -/
theorem eq_of_rewordNode (h : e.rewordNode t = .ok t') (hnumber : ¬ t'.IsNoNumber) : t' = t := by
  rcases rewordNode_cases h with ⟨rfl, -⟩ | ⟨_, _, _, _, _, _, _, rfl⟩ | ⟨d, x, hd, hx, hparse⟩
  · rfl
  · exact absurd ⟨_, rfl, nofun⟩ hnumber
  · have htext : e.formulaText? t = some x.render := by
      rw [formulaText?_eq, hd, Option.bind_some, hx, Option.map_some]
    obtain ⟨_, -, hformula⟩ := Option.bind_eq_some_iff.1 htext
    exact absurd (isNoNumber_of_dateFormula? hformula hparse) hnumber

theorem literalCount?_of_isNoNumber (h : t.IsNoNumber) : Query.literalCount? t = none := by
  obtain ⟨form, hform, hno⟩ := h
  unfold Query.literalCount?
  split
  · exact absurd (Form.expr.inj hform).symm (hno _ _)
  · rfl

/-- What an expression counts is what its reworded form counts. -/
theorem literalCount?_of_rewords (h : e.Rewords t t') :
    Query.literalCount? t' = Query.literalCount? t := by
  obtain ⟨form, parts⟩ := t
  obtain ⟨parts', -, hnode⟩ := rewords_node.1 h
  by_cases hnumber : t'.IsNoNumber
  · rw [literalCount?_of_isNoNumber hnumber]
    -- a number would have been left alone
    unfold Query.literalCount?
    split
    · next heq =>
      obtain ⟨rfl, rfl⟩ := node.inj heq
      obtain rfl := Except.ok.inj hnode
      obtain ⟨_, hform, hno⟩ := hnumber
      exact absurd (Form.expr.inj hform).symm (hno _ _)
    · rfl
  · rw [eq_of_rewordNode hnode hnumber]
    exact Query.literalCount?_of_form rfl

/-! ## Queries -/

theorem clausewise_rewords (e : Engine) : Clausewise e.Rewords :=
  fun _ _ _ => rewords_clause

/-- A query in the words of an engine is limited to the number that it was limited to, if any. -/
theorem limitCount?_of_rewords {q q' : Query} (h : e.Rewords q.toTree q'.toTree) :
    q'.limitCount? = q.limitCount? := by
  refine (clausewise_rewords e).limitCount?_eq (fun t form parts' ht => ?_)
    (fun _ _ => literalCount?_of_rewords) h
  obtain ⟨form', parts⟩ := t
  obtain ⟨own, -, hnode⟩ := rewords_node.1 ht
  have hclause : ¬ (clause form parts').IsNoNumber := by
    rintro ⟨_, heq, -⟩
    cases heq
  exact congrArg SyntaxTree.form (eq_of_rewordNode hnode hclause).symm

end MetricQuery.Engine
