import MetricQuery.Proofs.Sql.Sights

/-!
# Walks — the nodes of a region in reading order

Both lists of nodes of a tree are walks through a region of it that the forms alone make up: all
nodes, or those in no nested query. What is read off from a walk here are the columns that it comes
to and, with their parts, the nodes that show something.
-/

namespace MetricQuery.Sql

/-- Whether a form is that of a column. -/
def Form.isColumn : Form → Bool
  | .expr (.column _ _) => true
  | _ => false

namespace SyntaxTree

/-- Whether the nodes that are listed are those of the region that the entered forms make up. -/
def IsWalk (enters : Form → Bool) (walk : SyntaxTree → List SyntaxTree) : Prop :=
  ∀ form parts, walk (.node form parts)
    = if enters form then .node form parts :: parts.flatMap walk else []

theorem isWalk_nodes : IsWalk (fun _ => true) nodes :=
  fun form parts => nodes_node form parts

theorem isWalk_outerNodes : IsWalk isNoQuery outerNodes := by
  intro form parts
  by_cases hquery : ∃ options, form = .clause (.query options)
  · obtain ⟨options, rfl⟩ := hquery
    exact outerNodes_query options parts
  · have hno : ∀ options, form ≠ .clause (.query options) := fun options h => hquery ⟨options, h⟩
    have henters : isNoQuery form = true := by
      unfold isNoQuery
      split
      · exact absurd rfl (hno _)
      · rfl
    rw [outerNodes_node hno, if_pos henters]

/-- Both walks go through expressions and through arguments. -/
theorem exists_isWalk {walk : SyntaxTree → List SyntaxTree} (h : walk ∈ [nodes, outerNodes]) :
    ∃ enters, IsWalk enters walk ∧ (∀ form, enters (.expr form) = true)
      ∧ ∀ unique, enters (.clause (.arguments unique)) = true := by
  simp only [List.mem_cons, List.not_mem_nil, or_false] at h
  rcases h with rfl | rfl
  · exact ⟨_, isWalk_nodes, fun _ => rfl, fun _ => rfl⟩
  · exact ⟨_, isWalk_outerNodes, fun _ => rfl, fun _ => rfl⟩

/-- The columns that a walk comes to, each with its qualifier and its quote marks. -/
def columnForms (walk : SyntaxTree → List SyntaxTree) (t : SyntaxTree) : List Form :=
  ((walk t).map form).filter Form.isColumn

/-- The nodes that a walk comes to and that show a column or an aggregate call. -/
def showing (walk : SyntaxTree → List SyntaxTree) (t : SyntaxTree) : List SyntaxTree :=
  (walk t).filter fun n => (sight? n.form).isSome

section

variable {enters : Form → Bool} {walk : SyntaxTree → List SyntaxTree} {form : Form}
  {parts : List SyntaxTree}

theorem columnForms_node (hwalk : IsWalk enters walk) :
    columnForms walk (.node form parts)
      = if enters form then [form].filter Form.isColumn ++ parts.flatMap (columnForms walk)
        else [] := by
  rw [columnForms, hwalk form parts]
  by_cases henters : enters form = true
  · rw [if_pos henters, if_pos henters, List.map_cons, ← List.singleton_append, List.filter_append,
      List.map_flatMap, List.filter_flatMap]
    rfl
  · rw [if_neg henters, if_neg henters]
    rfl

theorem columnForms_clause (hwalk : IsWalk enters walk) (clauseForm : ClauseForm) :
    columnForms walk (.clause clauseForm parts)
      = if enters (.clause clauseForm) then parts.flatMap (columnForms walk) else [] :=
  columnForms_node hwalk

theorem columnForms_absent (hwalk : IsWalk enters walk) : columnForms walk absent = [] := by
  rw [columnForms_clause hwalk]
  split <;> rfl

theorem showing_node (hwalk : IsWalk enters walk) :
    showing walk (.node form parts)
      = if enters form then
          [.node form parts].filter (fun n => (sight? n.form).isSome) ++ parts.flatMap (showing walk)
        else [] := by
  rw [showing, hwalk form parts]
  by_cases henters : enters form = true
  · rw [if_pos henters, if_pos henters, ← List.singleton_append, List.filter_append,
      List.filter_flatMap]
    rfl
  · rw [if_neg henters, if_neg henters]
    rfl

theorem showing_node_of_none (hwalk : IsWalk enters walk) (henters : enters form = true)
    (h : sight? form = none) : showing walk (.node form parts) = parts.flatMap (showing walk) := by
  rw [showing_node hwalk, if_pos henters, List.filter_cons_of_neg (by simp [SyntaxTree.form, h]),
    List.filter_nil, List.nil_append]

theorem showing_absent (hwalk : IsWalk enters walk) : showing walk absent = [] := by
  rw [showing_node hwalk]
  split <;> rfl

end

theorem columnForms_eq_showing (walk : SyntaxTree → List SyntaxTree) (t : SyntaxTree) :
    columnForms walk t = ((showing walk t).map form).filter Form.isColumn := by
  rw [columnForms, showing, List.filter_map, List.filter_map, List.filter_filter]
  congr 1
  refine List.filter_congr fun n _ => ?_
  -- a column shows something
  cases hcolumn : (Form.isColumn ∘ form) n with
  | false => rw [Bool.false_and]
  | true =>
    obtain ⟨form | form, parts⟩ := n
    · cases form <;> first | rfl | cases hcolumn
    · cases hcolumn

/-- A property that passes from all nodes below a node to the node holds of all trees. -/
theorem induction_below {motive : SyntaxTree → Prop}
    (node : ∀ form parts, (∀ p ∈ parts, ∀ n ∈ p.nodes, motive n) → motive (.node form parts))
    (t : SyntaxTree) : motive t := by
  suffices hall : ∀ n ∈ t.nodes, motive n from hall t (mem_nodes_self t)
  induction t using SyntaxTree.induction with
  | node form parts ih =>
    intro n hn
    rw [nodes_node, List.mem_cons, List.mem_flatMap] at hn
    rcases hn with rfl | ⟨p, hp, hn⟩
    · exact node form parts ih
    · exact ih p hp n hn

end SyntaxTree

end MetricQuery.Sql
