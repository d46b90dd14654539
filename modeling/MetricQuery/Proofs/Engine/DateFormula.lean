import Mathlib.Data.List.Basic
import MetricQuery.Engine.Wording

/-!
# Date formulas — the trees that the formulas of an engine are the texts of

An engine's formula for a date difference is given as a text, in which the two dates stand as they
are printed. Each of these texts is the canonical text of a tree with the two dates for subtrees
(`dateFormula?_eq_render`): what is read back from the text should be that tree.
-/

namespace MetricQuery

open MetricQuery.Sql

namespace Sql.SyntaxTree

/-! ## Texts of small expressions -/

/-- A plain call of a function. -/
def callTree (name : String) (args : List SyntaxTree) : SyntaxTree :=
  .expr (.call [.plain name] none false)
    [.absent, .clause (.arguments none) args, .absent, .absent]

/-- A whole number as it is written. -/
def numberTree (digits : String) : SyntaxTree :=
  .expr (.literal (.number digits false)) []

/-- A text in single quotes. -/
def textTree (s : String) : SyntaxTree :=
  .expr (.literal (.text .single s)) []

variable {args : List SyntaxTree} {a b : SyntaxTree}

theorem isArgumentClause_of_isExpr (h : a.isExpr = true) : isArgumentClause a.form = false := by
  obtain ⟨form, parts⟩ := a
  cases form with
  | expr form => rfl
  | clause form => cases h

theorem render_arguments (h : ∀ a ∈ args, a.isExpr = true) :
    (clause (.arguments none) args).render = "(" ++ ", ".intercalate (args.map render) ++ ")" := by
  have hnone : ∀ p ∈ args.map fun t => (t.form, t.render), isArgumentClause p.1 = false := by
    intro p hp
    obtain ⟨a, ha, rfl⟩ := List.mem_map.1 hp
    exact isArgumentClause_of_isExpr (h a ha)
  have hpartition : (args.map fun t => (t.form, t.render)).partition (fun p => isArgumentClause p.1)
      = ([], args.map fun t => (t.form, t.render)) := by
    rw [List.partition_eq_filter_filter, List.filter_eq_nil_iff.2 fun p hp => by simp [hnone p hp],
      List.filter_eq_self.2 fun p hp => by simp [hnone p hp]]
  rw [render, renderParts_eq_map]
  show argumentsText none _ = _
  rw [argumentsText, hpartition]
  simp [textsWithCommas, commaSeparated, Function.comp_def]

theorem render_callTree (name : String) (h : ∀ a ∈ args, a.isExpr = true) :
    (callTree name args).render = name ++ "(" ++ ", ".intercalate (args.map render) ++ ")" := by
  have habsent : (absent : SyntaxTree).render = "" := rfl
  have hpath : renderPath [.plain name] = name := by simp [renderPath, Ident.render, Ident.plain]
  rw [callTree, render, renderParts_eq_map]
  show "" ++ renderPath [.plain name] ++ absent.render ++ (clause (.arguments none) args).render
    ++ "" ++ "" ++ "" ++ "" = _
  rw [hpath, habsent, render_arguments h]
  simp [String.append_assoc]

theorem render_callTree_one (name : String) (ha : a.isExpr = true) :
    (callTree name [a]).render = name ++ "(" ++ a.render ++ ")" := by
  rw [render_callTree name (by simpa using ha)]
  simp

theorem render_callTree_two (name : String) (ha : a.isExpr = true) (hb : b.isExpr = true) :
    (callTree name [a, b]).render = name ++ "(" ++ a.render ++ ", " ++ b.render ++ ")" := by
  rw [render_callTree name (by simpa using ⟨ha, hb⟩)]
  simp [String.append_assoc]

theorem render_binary (op : BinaryOp) :
    (expr (.binary op) [a, b]).render = a.render ++ " " ++ op.render ++ " " ++ b.render := by
  rw [render, renderParts_eq_map]
  rfl

theorem render_floor : (expr (.floor .whole) [a]).render = "FLOOR(" ++ a.render ++ ")" := by
  rw [render, renderParts_eq_map]
  rfl

theorem render_nested : (expr .nested [a]).render = "(" ++ a.render ++ ")" := by
  rw [render, renderParts_eq_map]
  show "(" ++ ", ".intercalate [a.render] ++ ")" = _
  rw [String.intercalate_singleton]

end Sql.SyntaxTree

/-! ## The formulas -/

open SyntaxTree

/-- The engine's own formula for a date difference, as a tree. -/
def Engine.formulaTree? (e : Engine) (d : DateDifference) : Option SyntaxTree :=
  match e, d.unit with
  | .mysql, .day => some (callTree "DATEDIFF" [d.stop, d.start])
  | .mysql, .week =>
    some (.expr (.floor .whole)
      [.expr (.binary .divide) [callTree "DATEDIFF" [d.stop, d.start], numberTree "7"]])
  | .mysql, .month =>
    some (callTree "PERIOD_DIFF" [callTree "DATE_FORMAT" [d.stop, textTree "%Y%m"],
      callTree "DATE_FORMAT" [d.start, textTree "%Y%m"]])
  | .mysql, .year =>
    some (.expr .nested
      [.expr (.binary .minus) [callTree "YEAR" [d.stop], callTree "YEAR" [d.start]]])
  | .clickhouse, _ => none
  | .h2, _ => none

/-- The functions that the formulas call. -/
def Engine.formulaFunctions : List String :=
  ["DATEDIFF", "DATE_FORMAT", "PERIOD_DIFF", "YEAR"]

theorem Engine.not_aggregate_of_mem_formulaFunctions {name : String}
    (h : name ∈ formulaFunctions) : Text.lower name ∉ aggregateFunctions := by
  revert name
  decide +kernel

/-- The formula that is given as a text is the text of the tree. -/
theorem Engine.dateFormula?_eq_render (e : Engine) (d : DateDifference)
    (hstart : d.start.isExpr = true) (hstop : d.stop.isExpr = true) :
    e.dateFormula? d.unit d.start.render d.stop.render = (e.formulaTree? d).map render := by
  obtain ⟨unit, start, stop⟩ := d
  cases e with
  | clickhouse => rfl
  | h2 => rfl
  | mysql =>
    -- the two sides are cut into pieces at different places: once the literals of the formula are
    -- cut where the printer cuts, only the brackets of the appends differ
    cases unit <;> refine congrArg some ?_
    case day => exact (render_callTree_two "DATEDIFF" hstop hstart).symm
    case week =>
      have hdays := render_callTree_two "DATEDIFF" hstop hstart
      have hseven : (numberTree "7").render = "7" := rfl
      rw [render_floor, render_binary, hdays, hseven]
      show _ = "FLOOR(" ++ (_ ++ " " ++ "/" ++ " " ++ "7") ++ ")"
      rw [show "FLOOR(DATEDIFF(" = "FLOOR(" ++ "DATEDIFF" ++ "(" from rfl,
        show ") / 7)" = ")" ++ " " ++ "/" ++ " " ++ "7" ++ ")" from rfl]
      simp only [String.append_assoc]
    case month =>
      have hmonth : (textTree "%Y%m").render = "'%Y%m'" := by decide
      have hdate : ∀ date : SyntaxTree, date.isExpr = true →
          (callTree "DATE_FORMAT" [date, textTree "%Y%m"]).render
            = "DATE_FORMAT(" ++ date.render ++ ", '%Y%m')" := by
        intro date h
        rw [render_callTree_two "DATE_FORMAT" h rfl, hmonth]
        simp [String.append_assoc]
      have hperiod := render_callTree_two (a := callTree "DATE_FORMAT" [stop, textTree "%Y%m"])
        (b := callTree "DATE_FORMAT" [start, textTree "%Y%m"]) "PERIOD_DIFF" rfl rfl
      rw [hdate stop hstop, hdate start hstart] at hperiod
      refine Eq.trans ?_ hperiod.symm
      rw [show "PERIOD_DIFF(DATE_FORMAT(" = "PERIOD_DIFF" ++ "(" ++ "DATE_FORMAT(" from rfl,
        show ", '%Y%m'), DATE_FORMAT(" = ", '%Y%m')" ++ ", " ++ "DATE_FORMAT(" from rfl,
        show ", '%Y%m'))" = ", '%Y%m')" ++ ")" from rfl]
      simp only [String.append_assoc]
    case year =>
      rw [render_nested, render_binary, render_callTree_one "YEAR" hstop,
        render_callTree_one "YEAR" hstart]
      show _ = "(" ++ (_ ++ " " ++ "-" ++ " " ++ _) ++ ")"
      rw [show "(YEAR(" = "(" ++ "YEAR" ++ "(" from rfl,
        show ") - YEAR(" = ")" ++ " " ++ "-" ++ " " ++ "YEAR" ++ "(" from rfl,
        show "))" = ")" ++ ")" from rfl]
      simp only [String.append_assoc]

end MetricQuery
