import Mathlib.Data.List.Forall2
import MetricQuery.Proofs.Sql.Relations

/-!
# Nodewise relations — trees that read the same tables

Whatever is done to the expressions of a query, its tables keep their places and their names. A
relation of trees is nodewise if it relates a node to one of the same form, part by part, or else an
expression to an expression. What tells a table is no expression, so that trees which are so related
read related tables under the same names.
-/

namespace MetricQuery.Sql

/-- Whether related trees are two nodes of one form with related parts, or else two expressions. -/
def Nodewise (R : SyntaxTree → SyntaxTree → Prop) : Prop :=
  ∀ t t', R t t' → (∃ form parts parts', t = .node form parts ∧ t' = .node form parts'
    ∧ List.Forall₂ R parts parts') ∨ (t.isExpr = true ∧ t'.isExpr = true)

namespace SyntaxTree

variable {t t' : SyntaxTree}

/-! ## Expressions are no tables -/

theorem tableName?_of_isExpr (h : t.isExpr = true) : t.tableName? = none := by
  obtain ⟨form | form, parts⟩ := t
  · rfl
  · cases h

theorem aliasName?_of_isExpr (h : t.isExpr = true) : t.aliasName? = none := by
  obtain ⟨form | form, parts⟩ := t
  · rfl
  · cases h

theorem boundName?_of_isExpr (h : t.isExpr = true) : t.boundName? = none := by
  obtain ⟨form | form, parts⟩ := t
  · rfl
  · cases h

theorem relationName?_of_isExpr (h : t.isExpr = true) : t.relationName? = none := by
  obtain ⟨form | form, parts⟩ := t
  · rfl
  · cases h

theorem fullName?_of_isExpr (h : t.isExpr = true) : t.fullName? = none := by
  obtain ⟨form | form, parts⟩ := t
  · rfl
  · cases h

theorem joinedTable?_of_isExpr (h : t.isExpr = true) : t.joinedTable? = none := by
  obtain ⟨form | form, parts⟩ := t
  · rfl
  · cases h

theorem sources_of_isExpr (h : t.isExpr = true) : t.sources = [] := by
  obtain ⟨form | form, parts⟩ := t
  · rfl
  · cases h

/-! ## Names that stand in forms -/

/-- The name of a table is in its form. -/
theorem tableName?_of_form (h : t'.form = t.form) : t'.tableName? = t.tableName? := by
  obtain ⟨form, parts⟩ := t
  obtain ⟨form', parts'⟩ := t'
  obtain rfl : form' = form := h
  unfold tableName?
  split
  · next heq => rw [(node.inj heq).1]
  · next hno =>
    split
    · next heq => exact absurd (congrArg (SyntaxTree.node · parts') (node.inj heq).1) (hno _ _ _ _)
    · rfl

theorem aliasName?_of_form (h : t'.form = t.form) : t'.aliasName? = t.aliasName? := by
  obtain ⟨form, parts⟩ := t
  obtain ⟨form', parts'⟩ := t'
  obtain rfl : form' = form := h
  unfold aliasName?
  split
  · next heq => rw [(node.inj heq).1]
  · next hno =>
    split
    · next heq => exact absurd (congrArg (SyntaxTree.node · parts') (node.inj heq).1) (hno _ _)
    · rfl

end SyntaxTree

/-! ## Related trees -/

namespace Nodewise

open SyntaxTree

variable {R : SyntaxTree → SyntaxTree → Prop} (hR : Nodewise R) {t t' : SyntaxTree}
  {s s' : Select}

include hR

theorem tableName?_eq (h : R t t') : t'.tableName? = t.tableName? := by
  rcases hR t t' h with ⟨form, parts, parts', rfl, rfl, -⟩ | ⟨hexpr, hexpr'⟩
  · exact tableName?_of_form rfl
  · rw [tableName?_of_isExpr hexpr, tableName?_of_isExpr hexpr']

theorem aliasName?_eq (h : R t t') : t'.aliasName? = t.aliasName? := by
  rcases hR t t' h with ⟨form, parts, parts', rfl, rfl, -⟩ | ⟨hexpr, hexpr'⟩
  · exact aliasName?_of_form rfl
  · rw [aliasName?_of_isExpr hexpr, aliasName?_of_isExpr hexpr']

/-- The alias of a table is its first part. -/
theorem head?_aliasName?_eq {parts parts' : List SyntaxTree} (h : List.Forall₂ R parts parts') :
    parts'.head?.bind aliasName? = parts.head?.bind aliasName? := by
  cases h with
  | nil => rfl
  | cons hhead _ => exact hR.aliasName?_eq hhead

theorem boundName?_eq (h : R t t') : t'.boundName? = t.boundName? := by
  rcases hR t t' h with ⟨form, parts, parts', rfl, rfl, hparts⟩ | ⟨hexpr, hexpr'⟩
  · have halias : parts'.head?.bind aliasName? = parts.head?.bind aliasName? :=
      hR.head?_aliasName?_eq hparts
    unfold boundName?
    split
    · next heq =>
      obtain ⟨rfl, rfl⟩ := node.inj heq
      exact congrArg (Option.or · _) halias
    · next hno =>
      split
      · next heq => exact absurd (congrArg (SyntaxTree.node · parts') (node.inj heq).1) (hno _ _ _ _)
      · rfl
  · rw [boundName?_of_isExpr hexpr, boundName?_of_isExpr hexpr']

theorem relationName?_eq (h : R t t') : t'.relationName? = t.relationName? := by
  have hbound := hR.boundName?_eq h
  rcases hR t t' h with ⟨form, parts, parts', rfl, rfl, hparts⟩ | ⟨hexpr, hexpr'⟩
  · cases form with
    | expr form => rfl
    | clause form =>
      have halias : parts'.findSome? aliasName? = parts.findSome? aliasName? := by
        clear h hbound
        induction hparts with
        | nil => rfl
        | cons hhead _ ih => rw [List.findSome?_cons, List.findSome?_cons, hR.aliasName?_eq hhead, ih]
      rw [relationName?, relationName?, hbound, halias]
  · rw [relationName?_of_isExpr hexpr, relationName?_of_isExpr hexpr']

theorem fullName?_eq (h : R t t') : t'.fullName? = t.fullName? := by
  rcases hR t t' h with ⟨form, parts, parts', rfl, rfl, hparts⟩ | ⟨hexpr, hexpr'⟩
  · have halias : parts'.head?.bind aliasName? = parts.head?.bind aliasName? :=
      hR.head?_aliasName?_eq hparts
    unfold fullName?
    split
    · next heq =>
      obtain ⟨rfl, rfl⟩ := node.inj heq
      rw [halias]
    · next hno =>
      split
      · next heq => exact absurd (congrArg (SyntaxTree.node · parts') (node.inj heq).1) (hno _ _ _ _)
      · rfl
  · rw [fullName?_of_isExpr hexpr, fullName?_of_isExpr hexpr']

theorem answersTo_iff {qualifier : List Ident} (h : R t t') :
    t'.AnswersTo qualifier ↔ t.AnswersTo qualifier := by
  rw [AnswersTo, AnswersTo, hR.relationName?_eq h, hR.fullName?_eq h]

theorem joinedTable? (h : R t t') : Option.Rel R t.joinedTable? t'.joinedTable? := by
  -- both nodes have the same form, or both are expressions and no joins
  rcases hR t t' h with ⟨form, parts, parts', rfl, rfl, hparts⟩ | ⟨hexpr, hexpr'⟩
  · unfold SyntaxTree.joinedTable?
    split
    · next heq =>
      obtain ⟨rfl, rfl⟩ := node.inj heq
      obtain _ | ⟨htable, -⟩ := hparts
      exact .some htable
    · next hno =>
      split
      · next heq =>
        obtain ⟨rfl, rfl⟩ := node.inj heq
        obtain _ | ⟨htable, -⟩ := hparts
        exact absurd rfl (hno _ _ _ _ _)
      · exact .none
  · rw [joinedTable?_of_isExpr hexpr, joinedTable?_of_isExpr hexpr']
    exact .none

theorem sources (h : R t t') : List.Forall₂ R t.sources t'.sources := by
  -- both nodes have the same form, or both are expressions and read no table
  rcases hR t t' h with ⟨form, parts, parts', rfl, rfl, hparts⟩ | ⟨hexpr, hexpr'⟩
  · unfold SyntaxTree.sources
    split
    · next heq =>
      obtain ⟨rfl, rfl⟩ := node.inj heq
      obtain _ | ⟨htable, hjoins⟩ := hparts
      exact .cons htable (List.rel_filterMap (fun n n' hn => hR.joinedTable? hn) hjoins)
    · next hno =>
      split
      · next heq =>
        obtain ⟨rfl, rfl⟩ := node.inj heq
        obtain _ | ⟨htable, -⟩ := hparts
        exact absurd rfl (hno _ _)
      · exact .nil
  · rw [sources_of_isExpr hexpr, sources_of_isExpr hexpr']
    exact .nil

/-- The tables that are read are related one by one. -/
theorem sourceTables (h : List.Forall₂ R s.sources.parts s'.sources.parts) :
    List.Forall₂ R s.sourceTables s'.sourceTables :=
  List.rel_flatMap h fun _ _ => hR.sources

theorem map_relationNames {ts ts' : List SyntaxTree} (h : List.Forall₂ R ts ts') :
    ts'.map relationNames = ts.map relationNames := by
  induction h with
  | nil => rfl
  | cons hhead _ ih =>
    rw [List.map_cons, List.map_cons, relationNames, relationNames, hR.tableName?_eq hhead,
      hR.relationName?_eq hhead, ih]

/-- The table that is read first has the same name. -/
theorem select_tableName?_eq (h : List.Forall₂ R s.sourceTables s'.sourceTables) :
    s'.tableName? = s.tableName? := by
  revert h
  unfold Select.tableName?
  generalize s.sourceTables = tables, s'.sourceTables = tables'
  intro h
  cases h with
  | nil => rfl
  | cons hhead _ => exact hR.tableName?_eq hhead

end Nodewise

end MetricQuery.Sql
