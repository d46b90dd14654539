import MetricQuery.Proofs.Engine.Attachments
import MetricQuery.Proofs.Engine.KeptSights

/-!
# Kept order — when rewording leaves what is shown in its order

A formula names the date where a difference ends in front of the one where it starts. So what a tree
shows may come in another order once it has been reworded. It comes in the order in which it has come
where each date difference that gives way to a formula shows what the formula shows, as one of a
column and a text does.
-/

namespace MetricQuery.Engine

open MetricQuery.Sql MetricQuery.Sql.SyntaxTree MetricQuery.Text

variable {e : Engine} {t n : SyntaxTree}

/-! ## One node -/

theorem columnName?_congr {a b : SyntaxTree} (h : sight? a.form = sight? b.form) :
    a.columnName? = b.columnName? := by
  ext name
  rw [columnName?_eq_some, columnName?_eq_some, h]

theorem sight?_formulaTree? {d : DateDifference} {x : SyntaxTree} (hx : e.formulaTree? d = some x) :
    sight? x.form = none := by
  have hcall : ∀ {name : String}, name ∈ formulaFunctions → ∀ args,
      sight? (callTree name args).form = none := by
    intro name hname args
    refine sight?_call_eq_none ?_
    rw [renderPath_plain]
    exact not_aggregate_of_mem_formulaFunctions hname
  unfold formulaTree? at hx
  split at hx <;> cases hx
  · exact hcall (by simp [formulaFunctions]) _
  · rfl
  · exact hcall (by simp [formulaFunctions]) _
  · rfl

/-- Rewording a node makes no column and no aggregate call, and it unmakes none. -/
theorem sight?_wordNode (e : Engine) (t : SyntaxTree) :
    sight? (e.wordNode t).form = sight? t.form := by
  rcases e.wordNode_cases t with ⟨d, x, hd, hx, rfl⟩ | ⟨-, -, hform | ⟨name, nulls, braces, new,
    hform, hnew, hform'⟩⟩
  · -- neither the call nor the formula is a column or aggregates
    obtain ⟨name, nulls, braces, _, _, _, _, _, rfl, hname, -⟩ := ofTree?_eq_some hd
    have hdatediff : lower (renderPath name) ∉ aggregateFunctions := by
      rw [hname]
      decide
    exact (sight?_formulaTree? hx).trans (sight?_call_eq_none hdatediff).symm
  · rw [hform]
  · obtain ⟨hold, hnew'⟩ := sight?_of_functionName? hnew nulls braces
    rw [hform, hform', hold, hnew']

theorem sight?_mapNodes_wordNode (e : Engine) (t : SyntaxTree) :
    sight? (t.mapNodes e.wordNode).form = sight? t.form := by
  obtain ⟨form, parts⟩ := t
  rw [mapNodes_node, sight?_wordNode]
  rfl

/-! ## Whole trees -/

section

variable {enters : Form → Bool} {walk : SyntaxTree → List SyntaxTree} (hwalk : IsWalk enters walk)
  (hexprs : ∀ form, enters (.expr form) = true)
  (harguments : ∀ unique, enters (.clause (.arguments unique)) = true)

include hwalk hexprs harguments

/-- What a node shows in the words of an engine: what the second and the first date of a translated
date difference show, or what the node has shown, its parts being reworded. -/
theorem showing_wordNode_cases (e : Engine) (form : Form) (parts : List SyntaxTree) :
    (e.translates (.node form parts) = true
        ∧ ∃ d, DateDifference.ofTree? (.node form parts) = some d
          ∧ showing walk ((node form parts).mapNodes e.wordNode)
            = showing walk (d.stop.mapNodes e.wordNode)
              ++ showing walk (d.start.mapNodes e.wordNode))
      ∨ showing walk ((node form parts).mapNodes e.wordNode)
        = if enters form then
            ([.node form parts].filter (fun n => (sight? n.form).isSome)).map (mapNodes e.wordNode)
              ++ parts.flatMap fun p => showing walk (p.mapNodes e.wordNode)
          else [] := by
  rcases e.wordNode_cases (.node form (parts.map (mapNodes e.wordNode))) with
    ⟨d, x, hd, hx, hword⟩ | ⟨-, hparts, hform⟩
  · have htranslates := translates_eq_true.2 ⟨d, x, hd, hx⟩
    rw [(keeps_wordNode e).translates_node] at htranslates
    rw [(keeps_wordNode e).ofTree?_node, Option.map_eq_some_iff] at hd
    obtain ⟨own, hown, rfl⟩ := hd
    refine .inl ⟨htranslates, own, hown, ?_⟩
    rw [mapNodes_node, hword, showing_formulaTree? hwalk hexprs harguments hx]
  · -- the node has its parts, and a form that shows the same
    obtain ⟨form', hword, hsight, henters⟩ : ∃ form',
        (node form parts).mapNodes e.wordNode = .node form' (parts.map (mapNodes e.wordNode))
          ∧ sight? form' = sight? form ∧ enters form' = enters form := by
      refine ⟨((node form parts).mapNodes e.wordNode).form, ?_, e.sight?_mapNodes_wordNode _, ?_⟩
      · rw [mapNodes_node]
        generalize e.wordNode _ = word at hparts
        obtain ⟨form', parts'⟩ := word
        exact congrArg _ hparts
      · rw [mapNodes_node]
        rcases hform with hform | ⟨_, _, _, _, hform, -, hform'⟩
        · rw [hform]
          rfl
        · obtain rfl : form = _ := hform
          rw [hform', hexprs, hexprs]
    have hself : [node form' (parts.map (mapNodes e.wordNode))].filter
          (fun n => (sight? n.form).isSome)
        = ([node form parts].filter fun n => (sight? n.form).isSome).map (mapNodes e.wordNode) := by
      by_cases hshows : (sight? form).isSome = true
      · rw [List.filter_cons_of_pos (by rwa [SyntaxTree.form, hsight]),
          List.filter_cons_of_pos (by exact hshows), List.map_cons, hword]
        rfl
      · rw [List.filter_cons_of_neg (by rwa [SyntaxTree.form, hsight]),
          List.filter_cons_of_neg (by exact hshows)]
        rfl
    right
    rw [hword, showing_node hwalk, henters, hself, List.flatMap_map]

theorem exists_mem_nodes_of_mem_showing (h : n ∈ showing walk (t.mapNodes e.wordNode)) :
    ∃ m ∈ t.nodes, n = m.mapNodes e.wordNode := by
  -- a date of a formula is no part of the node but lies below one, which the induction reaches
  induction t using SyntaxTree.induction_below with
  | node form parts ih =>
    rcases showing_wordNode_cases hwalk hexprs harguments e form parts with
      ⟨-, d, hd, hshowing⟩ | hshowing
    · obtain ⟨p, hp, hstart, hstop⟩ := mem_nodes_of_ofTree? hd
      have hdate : ∀ date ∈ p.nodes, n ∈ showing walk (date.mapNodes e.wordNode) →
          ∃ m ∈ (node form parts).nodes, n = m.mapNodes e.wordNode := by
        intro date hdate hn
        obtain ⟨m, hm, heq⟩ := ih p hp date hdate hn
        exact ⟨m, mem_nodes_of_mem_part hp (mem_nodes_trans hdate hm), heq⟩
      rw [hshowing] at h
      rcases List.mem_append.1 h with hn | hn
      · exact hdate _ hstop hn
      · exact hdate _ hstart hn
    · rw [hshowing] at h
      split at h
      · rcases List.mem_append.1 h with hn | hn
        · obtain ⟨m, hm, rfl⟩ := List.mem_map.1 hn
          rw [List.mem_filter, List.mem_singleton] at hm
          exact ⟨m, hm.1 ▸ mem_nodes_self _, rfl⟩
        · obtain ⟨p, hp, hn⟩ := List.mem_flatMap.1 hn
          obtain ⟨m, hm, heq⟩ := ih p hp p (mem_nodes_self p) hn
          exact ⟨m, mem_nodes_of_mem_part hp hm, heq⟩
      · cases h

end

/-- Whether the formulas of an engine would leave what a tree shows in its order: each date difference
that the engine has a formula for shows what its second date shows, then what its first date shows,
and nothing else. -/
def KeepsOrder (e : Engine) (t : SyntaxTree) : Prop :=
  ∀ n ∈ t.nodes, e.translates n = true → ∀ d ∈ DateDifference.ofTree? n,
    ∀ walk ∈ [nodes, outerNodes], showing walk n = showing walk d.stop ++ showing walk d.start

instance (e : Engine) (t : SyntaxTree) : Decidable (e.KeepsOrder t) :=
  inferInstanceAs (Decidable (∀ n ∈ t.nodes, e.translates n = true → ∀ d ∈ DateDifference.ofTree? n,
    ∀ walk ∈ [nodes, outerNodes], showing walk n = showing walk d.stop ++ showing walk d.start))

theorem KeepsOrder.node (h : e.KeepsOrder t) (hn : n ∈ t.nodes) : e.KeepsOrder n :=
  fun m hm => h m (mem_nodes_trans hn hm)

theorem keepsOrder_of_ne_mysql (h : e ≠ .mysql) (t : SyntaxTree) : e.KeepsOrder t := by
  intro n _ htranslates
  obtain ⟨d, x, -, hx⟩ := translates_eq_true.1 htranslates
  exact absurd (eq_mysql_of_formulaTree? hx) h

/-- What is shown in the words of an engine is then what has been shown, node by node in the same
order. -/
theorem KeepsOrder.showing_wordNode (h : e.KeepsOrder t) {walk : SyntaxTree → List SyntaxTree}
    (hmem : walk ∈ [nodes, outerNodes]) :
    showing walk (t.mapNodes e.wordNode) = (showing walk t).map (mapNodes e.wordNode) := by
  obtain ⟨enters, hwalk, hexprs, harguments⟩ := exists_isWalk hmem
  induction t using SyntaxTree.induction_below with
  | node form parts ih =>
    have hbelow : ∀ p ∈ parts, ∀ n ∈ p.nodes,
        showing walk (n.mapNodes e.wordNode) = (showing walk n).map (mapNodes e.wordNode) :=
      fun p hp n hn => ih p hp n hn (h.node (mem_nodes_of_mem_part hp hn))
    rcases showing_wordNode_cases hwalk hexprs harguments e form parts with
      ⟨htranslates, d, hd, hshowing⟩ | hshowing
    · -- the formula turns the dates around, which the call has done already
      obtain ⟨p, hp, hstart, hstop⟩ := mem_nodes_of_ofTree? hd
      rw [hshowing, hbelow p hp _ hstop, hbelow p hp _ hstart,
        h _ (mem_nodes_self _) htranslates d hd walk hmem, List.map_append]
    · -- the node stays in front of its parts
      have hparts : (parts.flatMap fun p => showing walk (p.mapNodes e.wordNode))
          = parts.flatMap fun p => (showing walk p).map (mapNodes e.wordNode) :=
        List.flatMap_congr fun p hp => hbelow p hp p (mem_nodes_self p)
      rw [hshowing, showing_node hwalk, hparts]
      by_cases henters : enters form = true
      · rw [if_pos henters, if_pos henters, List.map_append, List.map_flatMap]
      · rw [if_neg henters, if_neg henters]
        rfl

end MetricQuery.Engine
