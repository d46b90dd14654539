import MetricQuery.Proofs.Sql.Clausewise
import MetricQuery.Proofs.Sql.Groupings
import MetricQuery.Proofs.Sql.Sights

/-!
# Aggregation — queries that sum up rows themselves

A `SELECT` sums up rows itself if its list calls an aggregate function outside every query nested in
it, or if it has a `GROUP BY` clause, of whatever form. What lies in nested queries does not count:
the outline of the tree, in which they are empty, decides.

Aggregation is found by a search for calls in the whole list and for an expression in the clause.
The search finds the calls in nested queries as well, and it does not find `GROUP BY ALL`.
-/

namespace MetricQuery.Sql

namespace SyntaxTree

variable {P : Form → Prop} {form : Form} {parts : List SyntaxTree} {t n : SyntaxTree}

/-! ## Inside and outside nested queries -/

/-- What occurs in a tree occurs outside the queries nested in it or within one of them. -/
theorem occurs_iff_outside_or_within : Occurs (fun _ => true) P t
    ↔ Occurs isNoQuery P t
      ∨ ∃ n ∈ t.nodes, isNoQuery n.form = false ∧ Occurs (fun _ => true) P n := by
  constructor
  · intro h
    induction t using SyntaxTree.induction with
    | node form parts ih =>
      cases hform : isNoQuery form with
      -- the tree is a query itself, and all that occurs in it occurs within
      | false => exact .inr ⟨_, mem_nodes_self _, hform, h⟩
      | true =>
        obtain ⟨-, hhere | ⟨p, hp, hoccurs⟩⟩ := occurs_node.1 h
        · exact .inl (.here hform hhere)
        · rcases ih p hp hoccurs with houtside | ⟨n, hn, hquery, hwithin⟩
          · exact .inl (.part hform hp houtside)
          · exact .inr ⟨n, mem_nodes_of_mem_part hp hn, hquery, hwithin⟩
  · simp only [← exists_mem_nodes_iff, ← exists_mem_outerNodes_iff]
    rintro (⟨m, hm, hP⟩ | ⟨n, hn, -, m, hm, hP⟩)
    · exact ⟨m, mem_nodes_of_mem_outerNodes hm, hP⟩
    · exact ⟨m, mem_nodes_trans hn hm, hP⟩

/-- The node with nothing in it, if it is a query. -/
def emptied : SyntaxTree → SyntaxTree
  | .node (.clause (.query _)) _ => .clause (.query .plain) []
  | t => t

/-- The tree without what lies in its queries. -/
def outline (t : SyntaxTree) : SyntaxTree :=
  t.mapNodes emptied

theorem outline_query (options : QueryOptions) (parts : List SyntaxTree) :
    (clause (.query options) parts).outline = .clause (.query .plain) [] :=
  mapNodes_node _ _ _

theorem outline_node (h : isNoQuery form = true) (parts : List SyntaxTree) :
    (node form parts).outline = .node form (parts.map outline) := by
  rw [outline, mapNodes_node]
  unfold emptied
  split
  · next heq =>
    obtain ⟨rfl, -⟩ := node.inj heq
    cases h
  · rfl

theorem exists_of_isNoQuery_eq_false (h : isNoQuery form = false) :
    ∃ options, form = .clause (.query options) := by
  unfold isNoQuery at h
  split at h
  · exact ⟨_, rfl⟩
  · cases h

theorem outline_eq_node (h : isNoQuery form = true) :
    t.outline = .node form parts ↔ ∃ own, t = .node form own ∧ own.map outline = parts := by
  obtain ⟨form', own⟩ := t
  -- the outline of a query hides what stands in it, so that no other form has it
  cases hform : isNoQuery form' with
  | true =>
    rw [outline_node hform]
    constructor
    · intro heq
      obtain ⟨rfl, rfl⟩ := node.inj heq
      exact ⟨own, rfl, rfl⟩
    · rintro ⟨own', heq, rfl⟩
      obtain ⟨rfl, rfl⟩ := node.inj heq
      rfl
  | false =>
    obtain ⟨options, rfl⟩ := exists_of_isNoQuery_eq_false hform
    rw [outline_query]
    constructor
    · intro heq
      obtain ⟨rfl, -⟩ := node.inj heq
      cases h
    · rintro ⟨own', heq, -⟩
      obtain ⟨rfl, -⟩ := node.inj heq
      cases h

/-- What occurs outside nested queries can be told from the outline. -/
theorem occurs_outline : Occurs isNoQuery P t.outline ↔ Occurs isNoQuery P t := by
  induction t using SyntaxTree.induction with
  | node form parts ih =>
    cases hform : isNoQuery form with
    | true =>
      rw [outline_node hform, occurs_node, occurs_node]
      simp only [List.mem_map, exists_exists_and_eq_and]
      exact and_congr_right fun _ => or_congr_right (exists_congr fun p => and_congr_right (ih p))
    -- nothing occurs outside nested queries if the tree is one, whether it is emptied or not
    | false =>
      obtain ⟨options, rfl⟩ := exists_of_isNoQuery_eq_false hform
      rw [outline_query, occurs_node, occurs_node]
      simp [isNoQuery]

end SyntaxTree

open SyntaxTree

/-! ## `SELECT`s -/

namespace Select

variable {s s' : Select}

/-- Whether the list calls an aggregate function outside every query nested in it. -/
def CallsItself (s : Select) : Prop :=
  ∃ n ∈ s.projection.outerNodes, n.isAggregateCall = true

/-- Whether a query nested in the list calls an aggregate function. -/
def CallsNested (s : Select) : Prop :=
  ∃ n ∈ s.projection.nodes, isNoQuery n.form = false ∧ ∃ m ∈ n.nodes, m.isAggregateCall = true

/-- Whether there is a `GROUP BY` clause, of whatever form. -/
def HasGrouping (s : Select) : Prop :=
  s.grouping ≠ .absent

/-- Whether the clause is `GROUP BY ALL`. -/
def GroupsByAll (s : Select) : Prop :=
  ∃ modifiers, s.grouping = .clause (.groupByAll modifiers) []

/-- Whether the `SELECT` itself sums up rows. -/
def AggregatesItself (s : Select) : Prop :=
  s.CallsItself ∨ s.HasGrouping

instance (s : Select) : Decidable s.CallsItself :=
  inferInstanceAs (Decidable (∃ n ∈ s.projection.outerNodes, n.isAggregateCall = true))

instance (s : Select) : Decidable s.HasGrouping :=
  inferInstanceAs (Decidable (s.grouping ≠ .absent))

instance (s : Select) : Decidable s.AggregatesItself :=
  inferInstanceAs (Decidable (s.CallsItself ∨ s.HasGrouping))

theorem callsItself_iff : s.CallsItself ↔ Shows isNoQuery .aggregate s.projection := by
  simp only [CallsItself, isAggregateCall_iff]
  exact exists_mem_outerNodes_iff (P := fun form => sight? form = some .aggregate)

theorem callsAggregate_iff_itself_or_nested :
    s.callsAggregate = true ↔ s.CallsItself ∨ s.CallsNested := by
  have hsearch : s.callsAggregate = true ↔ Shows (fun _ => true) .aggregate s.projection := by
    rw [callsAggregate, List.any_eq_true, Shows, ← exists_mem_nodes_iff]
    simp only [isAggregateCall_iff]
  have hnested : s.CallsNested ↔ ∃ n ∈ s.projection.nodes,
      isNoQuery n.form = false ∧ Shows (fun _ => true) .aggregate n := by
    simp only [CallsNested, isAggregateCall_iff, Shows, ← exists_mem_nodes_iff]
  rw [hsearch, callsItself_iff, hnested]
  exact occurs_iff_outside_or_within

theorem GroupsByAll.hasGrouping (h : s.GroupsByAll) : s.HasGrouping := by
  obtain ⟨modifiers, h⟩ := h
  rw [HasGrouping, h]
  exact fun heq => by cases heq

/-- Of the clauses that are read `GROUP BY ALL` is the one without an expression. -/
theorem isGrouped_iff_of_read (h : Grammar.ReadGrouping s.grouping) :
    s.isGrouped = true ↔ s.HasGrouping ∧ ¬ s.GroupsByAll := by
  rw [isGrouped, List.any_eq_true, HasGrouping, GroupsByAll]
  generalize s.grouping = grouping at h
  cases h with
  -- neither of the first two holds an expression, but only one of them is a clause
  | absent => simp [nodes_node, isExpr, SyntaxTree.form]
  | all modifiers => simp [nodes_node, isExpr, SyntaxTree.form]
  | list modifiers hitems =>
    obtain ⟨item, hitem, hexpr⟩ := hitems
    have hfound : ∃ n ∈ (clause (.groupBy modifiers) _).nodes, n.isExpr = true :=
      ⟨item, mem_nodes_of_mem_part hitem (mem_nodes_self item), hexpr⟩
    refine ⟨fun _ => ⟨fun heq => ?_, ?_⟩, fun _ => hfound⟩
    · cases heq
    · rintro ⟨_, heq⟩
      cases heq

theorem callsItself_of_outline (h : s'.projection.outline = s.projection.outline) :
    s'.CallsItself ↔ s.CallsItself := by
  rw [callsItself_iff, callsItself_iff, Shows, Shows, ← occurs_outline, h, occurs_outline]

theorem hasGrouping_of_outline (h : s'.grouping.outline = s.grouping.outline) :
    s'.HasGrouping ↔ s.HasGrouping := by
  have habsent : ∀ t : SyntaxTree, t = .absent ↔ t.outline = .absent := by
    intro t
    rw [outline_eq_node rfl]
    simp
  rw [HasGrouping, HasGrouping, ne_eq, ne_eq, habsent, h, ← habsent]

theorem groupsByAll_of_outline (h : s'.grouping.outline = s.grouping.outline) :
    s'.GroupsByAll ↔ s.GroupsByAll := by
  have hall : ∀ (t : SyntaxTree) modifiers, t = .clause (.groupByAll modifiers) []
      ↔ t.outline = .clause (.groupByAll modifiers) [] := by
    intro t modifiers
    rw [outline_eq_node rfl]
    simp
  exact exists_congr fun modifiers => by rw [hall, h, ← hall]

end Select

/-! ## Queries -/

namespace Query

variable {text text' : String} {q q' : Query} {s : Select}

/-- Whether the query is a `SELECT` that itself sums up rows. -/
def AggregatesItself (q : Query) : Prop :=
  ∃ s ∈ q.select?, s.AggregatesItself

/-- Whether the search finds something in the query that is outside every query nested in it. -/
def FoundOutside (q : Query) : Prop :=
  ∃ s ∈ q.select?, s.CallsItself ∨ s.HasGrouping ∧ ¬ s.GroupsByAll

/-- Whether a query nested in the `SELECT` list calls an aggregate function. -/
def CallsNested (q : Query) : Prop :=
  ∃ s ∈ q.select?, s.CallsNested

/-- Whether the search misses a `GROUP BY ALL` or takes calls in nested queries for the query's
own. -/
def Misjudged (q : Query) : Prop :=
  ∃ s ∈ q.select?, ¬ s.CallsItself
    ∧ (s.GroupsByAll ∧ ¬ s.CallsNested ∨ s.CallsNested ∧ ¬ s.HasGrouping)

instance (q : Query) : Decidable q.AggregatesItself :=
  inferInstanceAs (Decidable (∃ s ∈ q.select?, s.AggregatesItself))

theorem aggregates_iff : q.aggregates = true ↔ ∃ s ∈ q.select?, s.aggregates = true := by
  unfold aggregates
  cases q.select? with
  | none => simp
  | some s => simp

/-- What the search finds in a query that has been read. -/
theorem aggregates_iff_of_parse (hread : Query.parse text = .ok q) :
    q.aggregates = true ↔ q.FoundOutside ∨ q.CallsNested := by
  rw [aggregates_iff, FoundOutside, CallsNested, ← exists_or]
  refine exists_congr fun s => ?_
  rw [← and_or_left]
  refine and_congr_right fun hs => ?_
  rw [Select.aggregates, Bool.or_eq_true, Select.callsAggregate_iff_itself_or_nested,
    Select.isGrouped_iff_of_read (readGrouping_of_parse hread hs), or_right_comm]

/-- Queries that are not misjudged are those of which the search tells whether they sum up rows. -/
theorem aggregates_iff_aggregatesItself (hread : Query.parse text = .ok q) :
    (q.aggregates = true ↔ q.AggregatesItself) ↔ ¬ q.Misjudged := by
  rw [aggregates_iff_of_parse hread, FoundOutside, CallsNested, AggregatesItself, Misjudged]
  cases hs : q.select? with
  | none => simp
  | some s =>
    have hall : s.GroupsByAll → s.HasGrouping := Select.GroupsByAll.hasGrouping
    simp only [Option.mem_def, Option.some.injEq, exists_eq_left', Select.AggregatesItself]
    tauto

/-! ### Queries with one outline -/

/-- A query with the outline of one whose body is a `SELECT` has a `SELECT` with the outlines of its
clauses. -/
theorem exists_select?_of_outline (h : q'.body.outline = q.body.outline) (hs : q.select? = some s) :
    ∃ s', q'.select? = some s' ∧ s'.projection.outline = s.projection.outline
      ∧ s'.grouping.outline = s.grouping.outline := by
  rw [← Select.toTree_of_ofTree? hs, Select.toTree, outline_node rfl, outline_eq_node rfl] at h
  obtain ⟨parts, hbody, hparts⟩ := h
  have hclauses : List.Forall₂ (fun p c => p.outline = c.outline) parts s.clauses := by
    rwa [← List.forall₂_eq_eq_eq, List.forall₂_map_left_iff, List.forall₂_map_right_iff] at hparts
  -- one case for each of the clauses of a `SELECT`
  obtain _ | ⟨-, _ | ⟨-, _ | ⟨hprojection, _ | ⟨-, _ | ⟨-, _ | ⟨-, _ | ⟨-, _ | ⟨hgrouping,
    _ | ⟨-, _ | ⟨-, _ | ⟨-, _ | ⟨-, _ | ⟨-, _ | ⟨-, _ | ⟨-, _ | _⟩⟩⟩⟩⟩⟩⟩⟩⟩⟩⟩⟩⟩⟩⟩ := hclauses
  -- a list is no query, so it has items again
  have houtline := hprojection
  rw [Select.projection, outline_node rfl, outline_eq_node rfl] at hprojection
  obtain ⟨items, rfl, -⟩ := hprojection
  exact ⟨_, congrArg Select.ofTree? hbody, houtline, hgrouping⟩

/-- What can be told from the outlines of these clauses can be told from the outline of the body. -/
theorem exists_select_of_outline {P : Select → Prop} (hP : ∀ s s' : Select,
    s'.projection.outline = s.projection.outline → s'.grouping.outline = s.grouping.outline →
    P s → P s') (h : q'.body.outline = q.body.outline) :
    (∃ s ∈ q'.select?, P s) ↔ ∃ s ∈ q.select?, P s := by
  have hstep : ∀ {q q' : Query}, q'.body.outline = q.body.outline → (∃ s ∈ q.select?, P s) →
      ∃ s ∈ q'.select?, P s := by
    rintro q q' h ⟨s, hs, hPs⟩
    obtain ⟨s', hs', hprojection, hgrouping⟩ := exists_select?_of_outline h hs
    exact ⟨s', hs', hP s s' hprojection hgrouping hPs⟩
  exact ⟨hstep h.symm, hstep h⟩

theorem aggregatesItself_of_outline (h : q'.body.outline = q.body.outline) :
    q'.AggregatesItself ↔ q.AggregatesItself := by
  refine exists_select_of_outline (fun s s' hprojection hgrouping hs => ?_) h
  rwa [Select.AggregatesItself, Select.callsItself_of_outline hprojection,
    Select.hasGrouping_of_outline hgrouping]

theorem foundOutside_of_outline (h : q'.body.outline = q.body.outline) :
    q'.FoundOutside ↔ q.FoundOutside := by
  refine exists_select_of_outline (fun s s' hprojection hgrouping hs => ?_) h
  rwa [Select.callsItself_of_outline hprojection, Select.hasGrouping_of_outline hgrouping,
    Select.groupsByAll_of_outline hgrouping]

/-- The search tells queries with one outline apart exactly if it finds nothing outside nested
queries and one of the two has a call in one. -/
theorem aggregates_eq_iff_of_outline (hread : Query.parse text = .ok q)
    (hread' : Query.parse text' = .ok q') (h : q'.body.outline = q.body.outline) :
    q'.aggregates = q.aggregates ↔ q.FoundOutside ∨ (q'.CallsNested ↔ q.CallsNested) := by
  rw [Bool.eq_iff_iff, aggregates_iff_of_parse hread, aggregates_iff_of_parse hread',
    foundOutside_of_outline h]
  tauto

end Query

end MetricQuery.Sql
