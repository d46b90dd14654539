import Mathlib.Data.List.Forall2
import MetricQuery.Sql.Query

/-!
# Trees — induction over the parts, and walks that agree node by node

Beside the walks of the query language there are two more here: a change of every node that may fail
(`tryMapNodes`), which is the state-passing one once failure is the state, and the forms that occur
in a region of a tree (`Occurs`), of which both lists of nodes are instances.
-/

namespace MetricQuery.Sql

/-- What is tested of a result is tested of something that is there. -/
theorem exists_ok_of_any {α ε : Type} {result : Except ε α} {test : α → Bool}
    (h : result.toOption.any test = true) : ∃ a, result = .ok a ∧ test a = true := by
  cases result with
  | error err => cases h
  | ok a => exact ⟨a, rfl, h⟩

/-- A map that may fail goes through a list if it goes through each element. -/
theorem mapM_eq_ok {α β ε : Type} {f : α → Except ε β} {xs : List α} {ys : List β} :
    xs.mapM f = .ok ys ↔ List.Forall₂ (fun x y => f x = .ok y) xs ys := by
  induction xs generalizing ys with
  | nil =>
    rw [List.mapM_nil, List.forall₂_nil_left_iff]
    exact ⟨fun h => (Except.ok.inj h).symm, fun h => congrArg Except.ok h.symm⟩
  | cons x xs ih =>
    rw [List.mapM_cons, List.forall₂_cons_left_iff]
    simp only [← ih]
    cases f x with
    | error err => exact ⟨fun h => (nomatch h), fun ⟨_, _, h, _⟩ => (nomatch h)⟩
    | ok y =>
      cases xs.mapM f with
      | error err => exact ⟨fun h => (nomatch h), fun ⟨_, _, _, h, _⟩ => (nomatch h)⟩
      | ok zs =>
        constructor
        · intro h
          exact ⟨y, zs, rfl, rfl, (Except.ok.inj h).symm⟩
        · rintro ⟨_, _, hy, hzs, rfl⟩
          cases hy
          cases hzs
          rfl

namespace SyntaxTree

/-- A property that passes from the parts to the node holds of all trees. -/
@[elab_as_elim]
theorem induction {motive : SyntaxTree → Prop}
    (node : ∀ form parts, (∀ p ∈ parts, motive p) → motive (.node form parts))
    (t : SyntaxTree) : motive t := by
  refine SyntaxTree.rec (motive_1 := motive) (motive_2 := fun ts => ∀ p ∈ ts, motive p)
    node ?_ ?_ t
  · intro p hp
    cases hp
  · intro head tail hhead htail p hp
    rcases List.mem_cons.1 hp with rfl | hp
    · exact hhead
    · exact htail p hp

/-! ## Equality -/

mutual

/-- Trees are compared form by form. -/
def decEq : (a b : SyntaxTree) → Decidable (a = b)
  | .node form parts, .node form' parts' =>
    if hform : form = form' then
      match decEqAll parts parts' with
      | isTrue hparts => isTrue (by rw [hform, hparts])
      | isFalse hne => isFalse fun h => hne (node.inj h).2
    else isFalse fun h => hform (node.inj h).1

def decEqAll : (as bs : List SyntaxTree) → Decidable (as = bs)
  | [], [] => isTrue rfl
  | [], _ :: _ => isFalse nofun
  | _ :: _, [] => isFalse nofun
  | a :: as, b :: bs =>
    match decEq a b, decEqAll as bs with
    | isTrue ha, isTrue has => isTrue (by rw [ha, has])
    | isFalse hne, _ => isFalse fun h => hne (List.cons.inj h).1
    | _, isFalse hne => isFalse fun h => hne (List.cons.inj h).2

end

instance : DecidableEq SyntaxTree := decEq

/-! ## Equations of the walks -/

theorem nodes_node (form : Form) (parts : List SyntaxTree) :
    (node form parts).nodes = node form parts :: parts.flatMap nodes := by
  rw [nodes, nodesAll_eq_flatMap]

theorem outerNodes_query (options : QueryOptions) (parts : List SyntaxTree) :
    (clause (.query options) parts).outerNodes = [] := by
  rw [outerNodes]

theorem outerNodes_node {form : Form} (h : ∀ options, form ≠ .clause (.query options))
    (parts : List SyntaxTree) :
    (node form parts).outerNodes = node form parts :: parts.flatMap outerNodes := by
  rw [← outerNodesAll_eq_flatMap]
  conv_lhs => unfold outerNodes
  split
  · next options _ heq => exact absurd (node.inj heq).1 (h options)
  · next heq =>
    obtain ⟨rfl, rfl⟩ := node.inj heq
    rfl

theorem mapNodes_node (f : SyntaxTree → SyntaxTree) (form : Form) (parts : List SyntaxTree) :
    (node form parts).mapNodes f = f (node form (parts.map (mapNodes f))) := by
  rw [mapNodes, mapNodesAll_eq_map]

theorem mem_nodes_of_mem_part {form : Form} {parts : List SyntaxTree} {p n : SyntaxTree}
    (hp : p ∈ parts) (hn : n ∈ p.nodes) : n ∈ (node form parts).nodes := by
  rw [nodes_node]
  exact List.mem_cons_of_mem _ (List.mem_flatMap.2 ⟨p, hp, hn⟩)

theorem mem_nodes_self (t : SyntaxTree) : t ∈ t.nodes := by
  cases t
  rw [nodes_node]
  exact List.mem_cons_self

theorem mem_exprs_of_mem_part {form : Form} {parts : List SyntaxTree} {p n : SyntaxTree}
    (hp : p ∈ parts) (hn : n ∈ p.exprs) : n ∈ (node form parts).exprs :=
  List.mem_filter.2 ⟨mem_nodes_of_mem_part hp (List.mem_filter.1 hn).1, (List.mem_filter.1 hn).2⟩

theorem mem_exprs_self (form : ExprForm) (parts : List SyntaxTree) :
    expr form parts ∈ (expr form parts).exprs :=
  List.mem_filter.2 ⟨mem_nodes_self _, rfl⟩

theorem mem_exprs_clause {form : ClauseForm} {parts : List SyntaxTree} {n : SyntaxTree} :
    n ∈ (clause form parts).exprs ↔ ∃ p ∈ parts, n ∈ p.exprs := by
  constructor
  · intro hn
    obtain ⟨hnode, hexpr⟩ := List.mem_filter.1 hn
    rw [nodes_node, List.mem_cons, List.mem_flatMap] at hnode
    rcases hnode with rfl | ⟨p, hp, hnode⟩
    · cases hexpr
    · exact ⟨p, hp, List.mem_filter.2 ⟨hnode, hexpr⟩⟩
  · rintro ⟨p, hp, hn⟩
    exact mem_exprs_of_mem_part hp hn

/-- The nodes of a node are nodes of the tree. -/
theorem mem_nodes_trans {t n m : SyntaxTree} (hn : n ∈ t.nodes) (hm : m ∈ n.nodes) :
    m ∈ t.nodes := by
  induction t using induction with
  | node form parts ih =>
    rw [nodes_node, List.mem_cons, List.mem_flatMap] at hn
    rcases hn with rfl | ⟨p, hp, hn⟩
    · exact hm
    · exact mem_nodes_of_mem_part hp (ih p hp hn)

theorem mem_nodes_of_mem_outerNodes {t n : SyntaxTree} (h : n ∈ t.outerNodes) : n ∈ t.nodes := by
  induction t using induction with
  | node form parts ih =>
    by_cases hquery : ∃ options, form = .clause (.query options)
    · obtain ⟨options, rfl⟩ := hquery
      rw [outerNodes_query] at h
      cases h
    · rw [outerNodes_node fun options heq => hquery ⟨options, heq⟩, List.mem_cons,
        List.mem_flatMap] at h
      rcases h with rfl | ⟨p, hp, h⟩
      · exact mem_nodes_self _
      · exact mem_nodes_of_mem_part hp (ih p hp h)

/-- Two changes that do the same to a node of each form that occurs do the same to the tree. -/
theorem mapNodes_congr {f g : SyntaxTree → SyntaxTree} {t : SyntaxTree}
    (h : ∀ n ∈ t.nodes, ∀ parts, f (.node n.form parts) = g (.node n.form parts)) :
    t.mapNodes f = t.mapNodes g := by
  induction t using induction with
  | node form parts ih =>
    have hparts : parts.map (mapNodes f) = parts.map (mapNodes g) :=
      List.map_congr_left fun p hp => ih p hp fun n hn => h n (mem_nodes_of_mem_part hp hn)
    rw [mapNodes_node, mapNodes_node, hparts]
    exact h _ (mem_nodes_self _) _

/-! ## Changes that may fail -/

/-- What stands on the right of a list of pairs stands next to something on the left. -/
theorem exists_mem_of_forall₂ {R : SyntaxTree → SyntaxTree → Prop} {ts ts' : List SyntaxTree}
    (h : List.Forall₂ R ts ts') {t' : SyntaxTree} (ht' : t' ∈ ts') : ∃ t ∈ ts, R t t' := by
  induction h with
  | nil => cases ht'
  | cons hhead _ ih =>
    rcases List.mem_cons.1 ht' with rfl | ht'
    · exact ⟨_, .head _, hhead⟩
    · obtain ⟨t, ht, hR⟩ := ih ht'
      exact ⟨t, .tail _ ht, hR⟩

/-- What stands at a place on the left stands next to what is at that place on the right. -/
theorem exists_getElem?_of_forall₂ {R : SyntaxTree → SyntaxTree → Prop} {ts ts' : List SyntaxTree}
    (h : List.Forall₂ R ts ts') {i : Nat} {t : SyntaxTree} (ht : ts[i]? = some t) :
    ∃ t', ts'[i]? = some t' ∧ R t t' := by
  obtain ⟨hi, rfl⟩ := List.getElem?_eq_some_iff.1 ht
  have hi' : i < ts'.length := h.length_eq ▸ hi
  exact ⟨ts'[i], List.getElem?_eq_getElem hi', h.get hi hi'⟩

/-- Lists whose elements agree pair by pair in a property agree in having it. -/
theorem exists_mem_iff_of_forall₂ {R : SyntaxTree → SyntaxTree → Prop} {P : SyntaxTree → Prop}
    {ts ts' : List SyntaxTree} (h : List.Forall₂ R ts ts')
    (hiff : ∀ t ∈ ts, ∀ t', R t t' → (P t' ↔ P t)) : (∃ t' ∈ ts', P t') ↔ ∃ t ∈ ts, P t := by
  induction h with
  | nil => simp
  | cons hhead _ ih =>
    simp only [List.exists_mem_cons_iff]
    rw [hiff _ (.head _) _ hhead, ih fun t ht => hiff t (.tail _ ht)]

section

variable {ε : Type} (f : SyntaxTree → Except ε SyntaxTree)

mutual

/-- Changes every node, parts before the node they belong to, up to the first failure. -/
def tryMapNodes : SyntaxTree → Except ε SyntaxTree
  | .node form parts => do f (.node form (← tryMapNodesAll parts))

/-- Changes every node of every tree, up to the first failure. -/
def tryMapNodesAll : List SyntaxTree → Except ε (List SyntaxTree)
  | [] => .ok []
  | t :: ts => do return (← tryMapNodes t) :: (← tryMapNodesAll ts)

end

variable {f}

theorem tryMapNodesAll_eq_mapM (ts : List SyntaxTree) :
    tryMapNodesAll f ts = ts.mapM (tryMapNodes f) := by
  induction ts with
  | nil =>
    rw [tryMapNodesAll, List.mapM_nil]
    rfl
  | cons t ts ih => rw [tryMapNodesAll, List.mapM_cons, ih]

theorem tryMapNodesAll_eq_ok {ts ts' : List SyntaxTree} :
    tryMapNodesAll f ts = .ok ts' ↔ List.Forall₂ (fun t t' => tryMapNodes f t = .ok t') ts ts' := by
  rw [tryMapNodesAll_eq_mapM, mapM_eq_ok]

theorem tryMapNodes_eq_ok {form : Form} {parts : List SyntaxTree} {t' : SyntaxTree} :
    tryMapNodes f (.node form parts) = .ok t' ↔ ∃ parts',
      List.Forall₂ (fun p p' => tryMapNodes f p = .ok p') parts parts'
        ∧ f (.node form parts') = .ok t' := by
  rw [tryMapNodes]
  simp only [← tryMapNodesAll_eq_ok]
  cases tryMapNodesAll f parts with
  | error err => exact ⟨fun h => (nomatch h), fun ⟨_, h, _⟩ => (nomatch h)⟩
  | ok parts' =>
    refine ⟨fun h => ⟨parts', rfl, h⟩, fun ⟨_, heq, h⟩ => ?_⟩
    cases heq
    exact h

end

/-! ## What occurs in a tree -/

/-- Whether a form with a property occurs in the region of the tree that the entered forms make up
from its root. -/
inductive Occurs (enters : Form → Bool) (P : Form → Prop) : SyntaxTree → Prop where
  | here {form : Form} {parts : List SyntaxTree} (henters : enters form = true) (hform : P form) :
    Occurs enters P (.node form parts)
  | part {form : Form} {parts : List SyntaxTree} {p : SyntaxTree} (henters : enters form = true)
    (hp : p ∈ parts) (hoccurs : Occurs enters P p) : Occurs enters P (.node form parts)

/-- The forms that are no query: the region of the outer nodes. -/
def isNoQuery : Form → Bool
  | .clause (.query _) => false
  | _ => true

section

variable {enters : Form → Bool} {P : Form → Prop} {form : Form} {parts : List SyntaxTree}

theorem occurs_node : Occurs enters P (.node form parts)
    ↔ enters form = true ∧ (P form ∨ ∃ p ∈ parts, Occurs enters P p) := by
  constructor
  · rintro (⟨henters, hform⟩ | ⟨henters, hp, hoccurs⟩)
    · exact ⟨henters, .inl hform⟩
    · exact ⟨henters, .inr ⟨_, hp, hoccurs⟩⟩
  · rintro ⟨henters, hform | ⟨p, hp, hoccurs⟩⟩
    · exact .here henters hform
    · exact .part henters hp hoccurs

theorem exists_mem_nodes_iff {t : SyntaxTree} :
    (∃ n ∈ t.nodes, P n.form) ↔ Occurs (fun _ => true) P t := by
  induction t using induction with
  | node form parts ih =>
    rw [nodes_node, occurs_node]
    simp only [List.mem_cons, List.mem_flatMap, true_and]
    constructor
    · rintro ⟨n, rfl | ⟨p, hp, hn⟩, hform⟩
      · exact .inl hform
      · exact .inr ⟨p, hp, (ih p hp).1 ⟨n, hn, hform⟩⟩
    · rintro (hform | ⟨p, hp, hoccurs⟩)
      · exact ⟨_, .inl rfl, hform⟩
      · obtain ⟨n, hn, hform⟩ := (ih p hp).2 hoccurs
        exact ⟨n, .inr ⟨p, hp, hn⟩, hform⟩

theorem exists_mem_outerNodes_iff {t : SyntaxTree} :
    (∃ n ∈ t.outerNodes, P n.form) ↔ Occurs isNoQuery P t := by
  induction t using induction with
  | node form parts ih =>
    rw [occurs_node]
    -- a nested query hides its parts, and its form is not entered
    by_cases hquery : ∃ options, form = .clause (.query options)
    · obtain ⟨options, rfl⟩ := hquery
      rw [outerNodes_query]
      simp [isNoQuery]
    · have hno : ∀ options, form ≠ .clause (.query options) := fun options h =>
        hquery ⟨options, h⟩
      have henters : isNoQuery form = true := by
        unfold isNoQuery
        split
        · exact absurd rfl (hno _)
        · rfl
      rw [outerNodes_node hno]
      simp only [List.mem_cons, List.mem_flatMap, henters, true_and]
      constructor
      · rintro ⟨n, rfl | ⟨p, hp, hn⟩, hform⟩
        · exact .inl hform
        · exact .inr ⟨p, hp, (ih p hp).1 ⟨n, hn, hform⟩⟩
      · rintro (hform | ⟨p, hp, hoccurs⟩)
        · exact ⟨_, .inl rfl, hform⟩
        · obtain ⟨n, hn, hform⟩ := (ih p hp).2 hoccurs
          exact ⟨n, .inr ⟨p, hp, hn⟩, hform⟩

end

end SyntaxTree

deriving instance DecidableEq for Query

/-- A query is the tree that it is. -/
theorem Query.toTree_injective {q q' : Query} (h : q.toTree = q'.toTree) : q = q' := by
  cases q
  cases q'
  cases h
  rfl

/-- A change that leaves the query itself as it is changes its clauses one after the other. -/
theorem Query.toTree_mapNodesWith {σ : Type} {f : σ → SyntaxTree → SyntaxTree × σ} {q : Query}
    (hroot : ∀ s parts, f s (.clause (.query q.options) parts)
      = (.clause (.query q.options) parts, s)) (s : σ) :
    q.toTree.mapNodesWith f s = ((q.mapNodesWith f s).1.toTree, (q.mapNodesWith f s).2) := by
  unfold toTree clauses Query.mapNodesWith
  simp only [SyntaxTree.mapNodesWith, SyntaxTree.mapNodesAllWith, hroot]

theorem Query.mem_nodes_of_mem_clause {q : Query} {p n : SyntaxTree} (hp : p ∈ q.clauses)
    (hn : n ∈ p.nodes) : n ∈ q.toTree.nodes :=
  SyntaxTree.mem_nodes_of_mem_part hp hn

theorem Query.mapNodes_congr {f g : SyntaxTree → SyntaxTree} {q : Query}
    (h : ∀ n ∈ q.toTree.nodes, ∀ parts, f (.node n.form parts) = g (.node n.form parts)) :
    q.mapNodes f = q.mapNodes g := by
  have hclause : ∀ p ∈ q.clauses, p.mapNodes f = p.mapNodes g := fun p hp =>
    SyntaxTree.mapNodes_congr fun n hn => h n (mem_nodes_of_mem_clause hp hn)
  simp only [clauses, List.forall_mem_cons] at hclause
  obtain ⟨h1, h2, h3, h4, h5, h6, h7, -⟩ := hclause
  simp only [mapNodes, h1, h2, h3, h4, h5, h6, h7]

end MetricQuery.Sql
