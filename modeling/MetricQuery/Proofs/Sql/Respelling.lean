import MetricQuery.Proofs.Sql.Clausewise
import MetricQuery.Proofs.Sql.Nodewise
import MetricQuery.Proofs.Sql.Sights

/-!
# Respelled trees — trees that differ in the names of columns only

A tree respells another one if the two are the same but for the names of columns, each of which is
in a given relation to the name in its place. Qualifiers and quote marks stay. Whatever does not
look at the names of columns finds the same in both: the tables, the output names, the limit and
whether rows are summed up.
-/

namespace MetricQuery.Sql

open SyntaxTree

variable {P : String → String → Prop}

/-- Whether two forms are the same but for the name of a column. -/
def Form.Respells (P : String → String → Prop) : Form → Form → Prop
  | .expr (.column qualifier name), .expr (.column qualifier' name') =>
    qualifier' = qualifier ∧ name'.quote = name.quote ∧ P name.name name'.name
  | form, form' => form' = form

theorem Form.Respells.cases {form form' : Form} (h : form.Respells P form') :
    (form' = form ∧ ∀ qualifier name, form ≠ .expr (.column qualifier name))
      ∨ ∃ qualifier name name', form = .expr (.column qualifier name)
        ∧ form' = .expr (.column qualifier name') ∧ name'.quote = name.quote
        ∧ P name.name name'.name := by
  unfold Form.Respells at h
  split at h
  · next qualifier name qualifier' name' =>
    obtain ⟨rfl, hquote, hname⟩ := h
    exact .inr ⟨_, name, name', rfl, rfl, hquote, hname⟩
  · next hno =>
    -- a column is only ever the same as a column
    subst h
    exact .inl ⟨rfl, fun qualifier name heq => hno _ _ _ _ heq heq⟩

theorem Form.respells_self {form : Form}
    (h : ∀ qualifier name, form ≠ .expr (.column qualifier name)) : form.Respells P form := by
  unfold Form.Respells
  split
  · exact absurd rfl (h _ _)
  · rfl

namespace SyntaxTree

/-- Whether two trees are the same but for the names of columns. -/
inductive Respells (P : String → String → Prop) : SyntaxTree → SyntaxTree → Prop where
  | node {form form' : Form} {parts parts' : List SyntaxTree} (hform : form.Respells P form')
    (hparts : List.Forall₂ (Respells P) parts parts') :
    Respells P (.node form parts) (.node form' parts')

variable {t t' : SyntaxTree}

theorem respells_node {form : Form} {parts : List SyntaxTree} :
    Respells P (.node form parts) t' ↔ ∃ form' parts', t' = .node form' parts'
      ∧ form.Respells P form' ∧ List.Forall₂ (Respells P) parts parts' := by
  constructor
  · rintro ⟨hform, hparts⟩
    exact ⟨_, _, rfl, hform, hparts⟩
  · rintro ⟨form', parts', rfl, hform, hparts⟩
    exact .node hform hparts

theorem Respells.form (h : t.Respells P t') : t.form.Respells P t'.form := by
  cases h
  assumption

theorem Respells.parts (h : t.Respells P t') : List.Forall₂ (Respells P) t.parts t'.parts := by
  cases h
  assumption

theorem clausewise_respells (P : String → String → Prop) : Clausewise (Respells P) := by
  intro form parts t'
  rw [respells_node]
  constructor
  · rintro ⟨form', parts', rfl, hform, hparts⟩
    exact ⟨parts', hparts, congrArg (SyntaxTree.node · parts') hform⟩
  · rintro ⟨parts', hparts, rfl⟩
    exact ⟨_, parts', rfl, Form.respells_self nofun, hparts⟩

section

variable [∀ a b, Decidable (P a b)]

instance (form form' : Form) : Decidable (form.Respells P form') := by
  unfold Form.Respells
  split <;> infer_instance

mutual

/-- Respelling is decided form by form. -/
def decRespells : (t t' : SyntaxTree) → Decidable (Respells P t t')
  | .node form parts, .node form' parts' =>
    if hform : form.Respells P form' then
      match decRespellsAll parts parts' with
      | isTrue hparts => isTrue (.node hform hparts)
      | isFalse hne => isFalse fun h => hne h.parts
    else isFalse fun h => hform h.form

def decRespellsAll : (ts ts' : List SyntaxTree) → Decidable (List.Forall₂ (Respells P) ts ts')
  | [], [] => isTrue .nil
  | [], _ :: _ => isFalse nofun
  | _ :: _, [] => isFalse nofun
  | t :: ts, t' :: ts' =>
    match decRespells t t', decRespellsAll ts ts' with
    | isTrue hhead, isTrue htail => isTrue (.cons hhead htail)
    | isFalse hne, _ => isFalse fun h => hne (List.forall₂_cons.1 h).1
    | _, isFalse hne => isFalse fun h => hne (List.forall₂_cons.1 h).2

end

instance (t t' : SyntaxTree) : Decidable (Respells P t t') :=
  decRespells t t'

end

/-- A form that is no column is the same in both. -/
theorem Respells.form_iff (h : t.Respells P t') {form : Form}
    (hform : ∀ qualifier name, form ≠ .expr (.column qualifier name)) :
    t'.form = form ↔ t.form = form := by
  rcases h.form.cases with ⟨heq, -⟩ | ⟨qualifier, name, name', heq, heq', -⟩
  · rw [heq]
  · rw [heq, heq']
    exact ⟨fun h => absurd h.symm (hform _ _), fun h => absurd h.symm (hform _ _)⟩

/-- Each of the two trees respells the other one. -/
theorem Respells.flip (h : t.Respells P t') : t'.Respells (flip P) t := by
  induction t using SyntaxTree.induction generalizing t' with
  | node form parts ih =>
    obtain ⟨form', parts', rfl, hform, hparts⟩ := respells_node.1 h
    have hmem := (List.forall₂_and_left parts parts').2 ⟨fun p (hp : p ∈ parts) => hp, hparts⟩
    refine .node ?_ (List.Forall₂.flip (hmem.imp fun p p' hp => ih p hp.1 hp.2))
    rcases hform.cases with ⟨rfl, hno⟩ | ⟨qualifier, name, name', rfl, rfl, hquote, hname⟩
    · exact Form.respells_self hno
    · exact ⟨rfl, hquote.symm, hname⟩

/-- A change that goes along with respelling at each node goes along with it in the tree. -/
theorem Respells.mapNodes {f : SyntaxTree → SyntaxTree}
    (hf : ∀ n n' : SyntaxTree, n.Respells P n' → (f n).Respells P (f n')) (h : t.Respells P t') :
    (t.mapNodes f).Respells P (t'.mapNodes f) := by
  induction t using SyntaxTree.induction generalizing t' with
  | node form parts ih =>
    obtain ⟨form', parts', rfl, hform, hparts⟩ := respells_node.1 h
    have hmem := (List.forall₂_and_left parts parts').2 ⟨fun p (hp : p ∈ parts) => hp, hparts⟩
    rw [mapNodes_node, mapNodes_node]
    refine hf _ _ (.node hform ?_)
    rw [List.forall₂_map_left_iff, List.forall₂_map_right_iff]
    exact hmem.imp fun p p' hp => ih p hp.1 hp.2

/-! ## The nodes of a tree -/

/-- Respelled trees are respelled node by node. -/
theorem Respells.nodes (h : t.Respells P t') : List.Forall₂ (Respells P) t.nodes t'.nodes := by
  induction t using SyntaxTree.induction generalizing t' with
  | node form parts ih =>
    obtain ⟨form', parts', rfl, -, hparts⟩ := respells_node.1 h
    rw [nodes_node, nodes_node]
    have hmem := (List.forall₂_and_left parts parts').2 ⟨fun p (hp : p ∈ parts) => hp, hparts⟩
    exact .cons h (List.rel_flatMap hmem fun p p' hp => ih p hp.1 hp.2)

theorem Respells.columnName? (h : t.Respells P t') :
    Option.Rel (fun a b : Ident => P a.name b.name) t.columnName? t'.columnName? := by
  have hsight : ∀ n : SyntaxTree, ∀ name, n.columnName? = some name
      ↔ sight? n.form = some (.column name) := fun _ _ => columnName?_eq_some
  rcases h.form.cases with ⟨heq, hno⟩ | ⟨qualifier, name, name', heq, heq', -, hname⟩
  · -- neither is a column
    have hnone : ∀ n : SyntaxTree, n.form = t.form → n.columnName? = none := by
      rintro ⟨form, parts⟩ hn
      simp only [SyntaxTree.form] at hn
      unfold SyntaxTree.columnName?
      split
      · next heq => exact absurd (hn.symm.trans (node.inj heq).1) (hno _ _)
      · rfl
    rw [hnone t rfl, hnone t' heq]
    exact .none
  · rw [(hsight t name).2 (by rw [heq]; rfl), (hsight t' name').2 (by rw [heq']; rfl)]
    exact .some hname

/-- The names of the columns are related one by one. -/
theorem Respells.names (h : t.Respells P t') :
    List.Forall₂ P ((t.nodes.filterMap SyntaxTree.columnName?).map Ident.name)
      ((t'.nodes.filterMap SyntaxTree.columnName?).map Ident.name) := by
  rw [List.forall₂_map_left_iff, List.forall₂_map_right_iff]
  exact List.rel_filterMap (fun n n' hn => hn.columnName?) h.nodes

theorem Respells.isExpr_eq (h : t.Respells P t') : t'.isExpr = t.isExpr := by
  unfold isExpr
  rcases h.form.cases with ⟨heq, -⟩ | ⟨_, _, _, heq, heq', -⟩
  · rw [heq]
  · rw [heq, heq']

theorem Respells.isAggregateCall_eq (h : t.Respells P t') :
    t'.isAggregateCall = t.isAggregateCall := by
  rw [Bool.eq_iff_iff, isAggregateCall_iff, isAggregateCall_iff]
  rcases h.form.cases with ⟨heq, -⟩ | ⟨_, _, _, heq, heq', -⟩
  · rw [heq]
  · rw [heq, heq']
    exact ⟨fun h => (nomatch h), fun h => (nomatch h)⟩

/-- What every node tells the same, the nodes of a tree tell the same. -/
theorem Respells.any_nodes {p : SyntaxTree → Bool}
    (hp : ∀ n n' : SyntaxTree, n.Respells P n' → p n' = p n) (h : t.Respells P t') :
    t'.nodes.any p = t.nodes.any p := by
  have hnodes := h.nodes
  revert hnodes
  generalize t.nodes = ns, t'.nodes = ns'
  intro hnodes
  induction hnodes with
  | nil => rfl
  | cons hhead _ ih => rw [List.any_cons, List.any_cons, hp _ _ hhead, ih]

/-! ## Tables -/

/-- What is neither a column on the one side nor on the other has the same form on both. -/
theorem nodewise_respells (P : String → String → Prop) : Nodewise (Respells P) := by
  rintro t t' ⟨hform, hparts⟩
  rcases hform.cases with ⟨rfl, -⟩ | ⟨_, _, _, rfl, rfl, -⟩
  · exact .inl ⟨_, _, _, rfl, rfl, hparts⟩
  · exact .inr ⟨rfl, rfl⟩

theorem Respells.tableName?_eq (h : t.Respells P t') : t'.tableName? = t.tableName? :=
  (nodewise_respells P).tableName?_eq h

theorem Respells.boundName?_eq (h : t.Respells P t') : t'.boundName? = t.boundName? :=
  (nodewise_respells P).boundName?_eq h

end SyntaxTree

/-! ## Queries -/

variable {q q' : Query} {s s' : Select}

namespace Select.Related

theorem aliases_eq (h : s.Related (Respells P) s') : s'.aliases = s.aliases := by
  have halias : ∀ item item' : SyntaxTree, item.Respells P item' →
      itemAlias? item' = itemAlias? item := by
    intro item item' hitem
    ext label
    -- the label is part of the form, and the form of a clause is never respelled
    have hform : item'.form = .clause (.aliased label) ↔ item.form = .clause (.aliased label) :=
      hitem.form_iff nofun
    rw [Select.itemAlias?_eq_some, Select.itemAlias?_eq_some, hform]
  have hitems : List.Forall₂ (fun item item' => itemAlias? item' = itemAlias? item)
      s.items s'.items := h.items.imp halias
  have hall : List.Forall₂ Eq (s.items.filterMap itemAlias?) (s'.items.filterMap itemAlias?) := by
    refine List.rel_filterMap (fun item item' hitem => ?_) hitems
    rw [hitem]
    cases itemAlias? item with
    | none => exact .none
    | some label => exact .some rfl
  rw [List.forall₂_eq_eq_eq] at hall
  rw [aliases, aliases, hall]

theorem projection (h : s.Related (Respells P) s') : s.projection.Respells P s'.projection :=
  (clausewise_respells P _ _ _).2 ⟨_, h.items, rfl⟩

theorem aggregates_eq (h : s.Related (Respells P) s') : s'.aggregates = s.aggregates := by
  have hcalls : s'.callsAggregate = s.callsAggregate :=
    h.projection.any_nodes fun _ _ => Respells.isAggregateCall_eq
  have hgrouped : s'.isGrouped = s.isGrouped := h.grouping.any_nodes fun _ _ => Respells.isExpr_eq
  rw [aggregates, aggregates, hcalls, hgrouped]

theorem sourceTables (h : s.Related (Respells P) s') :
    List.Forall₂ (Respells P) s.sourceTables s'.sourceTables :=
  (nodewise_respells P).sourceTables h.sources.parts

theorem tableName?_eq (h : s.Related (Respells P) s') : s'.tableName? = s.tableName? :=
  (nodewise_respells P).select_tableName?_eq h.sourceTables

end Select.Related

namespace Query

/-- Whether two queries are the same but for the names of columns. -/
def Respells (P : String → String → Prop) (q q' : Query) : Prop :=
  q.toTree.Respells P q'.toTree

instance [∀ a b, Decidable (P a b)] (q q' : Query) : Decidable (q.Respells P q') :=
  inferInstanceAs (Decidable (q.toTree.Respells P q'.toTree))

namespace Respells

theorem related (h : q.Respells P q') : q.Related (SyntaxTree.Respells P) q' :=
  (clausewise_respells P).query h

theorem of_related (h : q.Related (SyntaxTree.Respells P) q') : q.Respells P q' := by
  have hclauses : List.Forall₂ (SyntaxTree.Respells P) q.clauses q'.clauses :=
    .cons h.commonTables (.cons h.body (.cons h.orderBy (.cons h.limit (.cons h.limitBy
      (.cons h.offset (.cons h.fetch .nil))))))
  refine (clausewise_respells P _ _ _).2 ⟨_, hclauses, ?_⟩
  rw [toTree, h.options]

theorem flip (h : q.Respells P q') : q'.Respells (flip P) q :=
  SyntaxTree.Respells.flip h

/-- Either both bodies are a `SELECT` or none is. -/
theorem select? (h : q.Respells P q') :
    (q.select? = none ∧ q'.select? = none) ∨ ∃ s s', q.select? = some s ∧ q'.select? = some s'
      ∧ s.Related (SyntaxTree.Respells P) s' := by
  cases hs : q.select? with
  | some s =>
    obtain ⟨s', hs', hrelated⟩ := (clausewise_respells P).exists_select? h hs
    exact .inr ⟨s, s', rfl, hs', hrelated⟩
  | none =>
    refine .inl ⟨rfl, Option.eq_none_iff_forall_ne_some.2 fun s' hs' => ?_⟩
    obtain ⟨s, hs'', -⟩ := (clausewise_respells _).exists_select? h.flip hs'
    rw [hs] at hs''
    cases hs''

theorem aggregates_eq (h : q.Respells P q') : q'.aggregates = q.aggregates := by
  unfold aggregates
  rcases h.select? with ⟨hs, hs'⟩ | ⟨s, s', hs, hs', hrelated⟩
  · rw [hs, hs']
  · rw [hs, hs']
    exact hrelated.aggregates_eq

theorem tableName?_eq (h : q.Respells P q') : q'.tableName? = q.tableName? := by
  unfold Query.tableName?
  rcases h.select? with ⟨hs, hs'⟩ | ⟨s, s', hs, hs', hrelated⟩
  · rw [hs, hs']
  · rw [hs, hs', Option.bind_some, Option.bind_some, hrelated.tableName?_eq]

theorem limitCount?_eq (h : q.Respells P q') : q'.limitCount? = q.limitCount? := by
  refine (clausewise_respells P).limitCount?_eq (fun t form parts' ht => ?_) (fun t t' ht => ?_) h
  · have hform : (clause form parts').form = .clause form ↔ t.form = .clause form :=
      ht.form_iff nofun
    exact hform.1 rfl
  · rcases ht.form.cases with ⟨heq, -⟩ | ⟨qualifier, name, name', heq, heq', -⟩
    · exact literalCount?_of_form heq
    · rw [literalCount?_of_form (t := .expr (.column qualifier name) []) heq,
        literalCount?_of_form (t := .expr (.column qualifier name') []) heq']
      rfl

end Respells

end Query

end MetricQuery.Sql
