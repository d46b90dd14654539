import MetricQuery.Proofs.Sql.Tree
import MetricQuery.Sql.Columns

/-!
# Sights — what a tree shows to those who look for columns and aggregate calls

The names that a query refers to and the aggregate functions that it calls are found by walks over
its trees. What they find in a region of a tree is a matter of the forms alone.
-/

namespace MetricQuery.Sql

open SyntaxTree MetricQuery.Text

/-- What the form of an expression shows: a column or an aggregate call. -/
inductive Sight where
  | column (name : Ident)
  | aggregate
  deriving DecidableEq

/-- What a form shows. -/
def sight? : Form → Option Sight
  | .expr (.column _ name) => some (.column name)
  | .expr (.call name _ _) =>
    if aggregateFunctions.contains (lower (renderPath name)) then some .aggregate else none
  | _ => none

/-- Whether a tree shows something in the region that the entered forms make up. -/
def Shows (enters : Form → Bool) (s : Sight) (t : SyntaxTree) : Prop :=
  Occurs enters (fun form => sight? form = some s) t

theorem columnName?_eq_some {t : SyntaxTree} {name : Ident} :
    t.columnName? = some name ↔ sight? t.form = some (.column name) := by
  obtain ⟨form, parts⟩ := t
  cases form with
  | clause form => exact ⟨fun h => (nomatch h), fun h => (nomatch h)⟩
  | expr form =>
    cases form with
    | column qualifier own =>
      simp [columnName?, sight?, SyntaxTree.form]
    | call own nulls braces =>
      refine ⟨fun h => (nomatch h), fun h => ?_⟩
      simp only [sight?, SyntaxTree.form] at h
      split at h <;> cases h
    | _ => exact ⟨fun h => (nomatch h), fun h => (nomatch h)⟩

theorem isAggregateCall_iff {t : SyntaxTree} :
    t.isAggregateCall = true ↔ sight? t.form = some .aggregate := by
  obtain ⟨form, parts⟩ := t
  cases form with
  | clause form => exact ⟨fun h => (nomatch h), fun h => (nomatch h)⟩
  | expr form =>
    cases form with
    | call own nulls braces =>
      show aggregateFunctions.contains (lower (renderPath own)) = true ↔ _
      simp [sight?, SyntaxTree.form]
    | _ => exact ⟨fun h => (nomatch h), fun h => (nomatch h)⟩

theorem Select.itemAlias?_eq_some {item : SyntaxTree} {label : Ident} :
    itemAlias? item = some label ↔ item.form = .clause (.aliased label) := by
  obtain ⟨form, parts⟩ := item
  unfold itemAlias? SyntaxTree.form
  split
  · next heq =>
    obtain ⟨rfl, -⟩ := node.inj heq
    simp
  · next hno =>
    refine ⟨fun h => (nomatch h), fun h => ?_⟩
    subst h
    exact absurd rfl (hno _ _)

theorem sight?_call_eq_none {name : List Ident} {nulls : Option NullTreatment} {braces : Bool}
    (h : lower (renderPath name) ∉ aggregateFunctions) :
    sight? (.expr (.call name nulls braces)) = none := by
  simp [sight?, h]

variable {t : SyntaxTree} {enters : Form → Bool} {s : Sight}

theorem shows_node {form : Form} {parts : List SyntaxTree} : Shows enters s (.node form parts)
    ↔ enters form = true ∧ (sight? form = some s ∨ ∃ p ∈ parts, Shows enters s p) :=
  occurs_node

theorem not_shows_literal (value : Literal) : ¬ Shows enters s (.expr (.literal value) []) := by
  rw [shows_node]
  rintro ⟨-, h | ⟨p, hp, -⟩⟩
  · cases h
  · cases hp

/-! ## Trees without expressions -/

theorem exprs_node_eq_nil {form : Form} {parts : List SyntaxTree} :
    (node form parts).exprs = []
      ↔ (∃ clauseForm, form = .clause clauseForm) ∧ ∀ p ∈ parts, p.exprs = [] := by
  constructor
  · intro h
    refine ⟨?_, fun p hp => List.eq_nil_iff_forall_not_mem.2 fun n hn => ?_⟩
    · -- an expression is among its own expressions
      cases form with
      | clause form => exact ⟨form, rfl⟩
      | expr form =>
        have hmem := mem_exprs_self form parts
        rw [h] at hmem
        cases hmem
    · have hmem : n ∈ (node form parts).exprs := mem_exprs_of_mem_part hp hn
      rw [h] at hmem
      cases hmem
  · rintro ⟨⟨form, rfl⟩, h⟩
    simp only [exprs, List.filter_eq_nil_iff] at h ⊢
    intro n hn
    rw [nodes_node, List.mem_cons, List.mem_flatMap] at hn
    rcases hn with rfl | ⟨p, hp, hn⟩
    · exact fun hexpr => nomatch hexpr
    · exact h p hp n hn

/-- A tree without expressions shows nothing. -/
theorem not_shows_of_exprs (h : t.exprs = []) : ¬ Shows enters s t := by
  induction t using SyntaxTree.induction with
  | node form parts ih =>
    obtain ⟨⟨form, rfl⟩, hparts⟩ := exprs_node_eq_nil.1 h
    rw [shows_node]
    rintro ⟨-, hform | ⟨p, hp, hshows⟩⟩
    · cases hform
    · exact ih p hp (hparts p hp) hshows

end MetricQuery.Sql
