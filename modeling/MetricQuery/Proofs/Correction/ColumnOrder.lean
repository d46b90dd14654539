import MetricQuery.Proofs.Correction.FixedPoint
import MetricQuery.Proofs.Engine.KeptOrder
import MetricQuery.Proofs.Text.DistinctNames

/-!
# Column order — appended columns of a query and of its reworded form

Columns are appended in an order that depends on how each name is spelled where it comes first. In the
words of an engine a query has the same columns to append, reserved ones aside, but it may come to
them in another order; where rewording keeps the order of what is shown they are the same columns in
the same order.
-/

namespace MetricQuery

open MetricQuery.Text MetricQuery.Sql MetricQuery.Sql.SyntaxTree MetricQuery.Engine

/-! ## Columns behind a list -/

/-- The query with columns behind the items of its list, if its body is a `SELECT`. -/
def Sql.Query.withColumns (q : Query) (columns : List SyntaxTree) : Query :=
  match q.select? with
  | some s => { q with body := (s.withItems (s.items ++ columns)).toTree }
  | none => q

namespace Correction

variable {e : Engine} {q q' : Query} {s s' : Select} {ceiling : Nat} {columns columns' : List SyntaxTree}

theorem withColumns_of_select? (h : q.select? = some s) :
    q.withColumns columns = { q with body := (s.withItems (s.items ++ columns)).toTree } := by
  rw [Query.withColumns, h]

theorem withColumns_of_none (h : q.select? = none) : q.withColumns columns = q := by
  rw [Query.withColumns, h]

theorem withColumns_nil (q : Query) : q.withColumns [] = q := by
  cases hs : q.select? with
  | none => exact withColumns_of_none hs
  | some s =>
    have hbody : (s.withItems (s.items ++ [])).toTree = q.body := by
      rw [List.append_nil]
      exact Select.toTree_of_ofTree? hs
    rw [withColumns_of_select? hs, hbody]

theorem withColumns_injective (hs : q.select? = some s)
    (h : q.withColumns columns = q.withColumns columns') : columns = columns' := by
  rw [withColumns_of_select? hs, withColumns_of_select? hs] at h
  have hselect := congrArg Query.select? h
  rw [Query.select?_withBody, Query.select?_withBody, Option.some.injEq] at hselect
  exact List.append_cancel_left (congrArg Select.items hselect)

theorem limited_withColumns (ceiling : Nat) (q : Query) (columns : List SyntaxTree) :
    limited ceiling (q.withColumns columns) = (limited ceiling q).withColumns columns := by
  cases hs : q.select? with
  | none => rw [withColumns_of_none hs, withColumns_of_none ((select?_limited _ _).trans hs)]
  | some s =>
    -- the limit and the list are different clauses
    have hlimited : (limited ceiling q).select? = some s := (select?_limited _ _).trans hs
    rw [withColumns_of_select? hs, withColumns_of_select? hlimited, limited, limited, limitRows?,
      limitRows?]
    by_cases hwithin : withinCeiling ceiling q = true
    · rw [if_pos hwithin, if_pos (by exact hwithin)]
      rfl
    · rw [if_neg hwithin, if_neg (by exact hwithin)]
      rfl

/-- The columns that are appended to a query. -/
def columnsToAppend (q : Query) : List SyntaxTree :=
  match q.select? with
  | some s => if takesColumns s then appendedColumns q s else []
  | none => []

theorem columnsToAppend_of_select? (h : q.select? = some s) :
    columnsToAppend q = if takesColumns s then appendedColumns q s else [] := by
  rw [columnsToAppend, h]

theorem mem_columnsToAppend {c : SyntaxTree} : c ∈ columnsToAppend q
    ↔ ∃ s, q.select? = some s ∧ takesColumns s = true ∧ c ∈ referencedColumns q s
      ∧ isMissing s c = true := by
  unfold columnsToAppend
  cases q.select? with
  | none => simp
  | some s =>
    by_cases htakes : takesColumns s = true
    · simp [htakes, mem_appendedColumns]
    · simp [htakes]

theorem appended_true (q : Query) : appended true q = q.withColumns (columnsToAppend q) := by
  show (appendColumns? q).getD q = _
  cases happend : appendColumns? q with
  | some q' =>
    obtain ⟨s, hs, htakes, -, rfl⟩ := appendColumns?_eq_some.1 happend
    rw [withColumns_of_select? hs, columnsToAppend_of_select? hs, if_pos htakes]
    rfl
  | none =>
    -- where nothing changes, no column is missing or none may be taken
    have hnil : columnsToAppend q = [] := by
      refine List.eq_nil_iff_forall_not_mem.2 fun c hc => ?_
      obtain ⟨s, hs, htakes, hreferenced, hmissing⟩ := mem_columnsToAppend.1 hc
      rw [appendColumns?_eq_none.1 happend s hs htakes c hreferenced] at hmissing
      cases hmissing
    rw [hnil, withColumns_nil]
    rfl

/-! ## Rewording -/

theorem select?_eq_none_of_rewords (hback : e.ReadsFormulasBack q.toTree)
    (h : e.Rewords q.toTree q'.toTree) (hs : q.select? = none) : q'.select? = none := by
  refine Option.eq_none_iff_forall_ne_some.2 fun s' hs' => ?_
  obtain ⟨s, heq, -⟩ := exists_select?_of_rewords hback h hs'
  rw [hs] at heq
  cases heq

theorem rewords_withColumns (hnone : q.select? = none → q'.select? = none)
    (h : e.Rewords q.toTree q'.toTree) (hcolumns : List.Forall₂ e.Rewords columns columns') :
    e.Rewords (q.withColumns columns).toTree (q'.withColumns columns').toTree := by
  cases hs : q.select? with
  | none =>
    rw [withColumns_of_none hs, withColumns_of_none (hnone hs)]
    exact h
  | some s =>
    obtain ⟨s', hs', -⟩ := (clausewise_rewords e).exists_select? h hs
    have hbody := ((clausewise_rewords e).query h).body
    rw [← Select.toTree_of_ofTree? hs, ← Select.toTree_of_ofTree? hs'] at hbody
    obtain ⟨_, hclauses, heq⟩ := rewords_clause.1 hbody
    obtain ⟨hform, rfl⟩ := node.inj heq
    -- of the clauses of the `SELECT` only the list is another one, and of those of the query only the
    -- `SELECT`
    have hselect : e.Rewords (s.withItems (s.items ++ columns)).toTree
        (s'.withItems (s'.items ++ columns')).toTree := by
      refine rewords_clause.2 ⟨_, ?_, congrArg (SyntaxTree.node · _) hform⟩
      simp only [Select.clauses, List.forall₂_cons] at hclauses ⊢
      obtain ⟨hdistinct, htop, hprojection, hrest⟩ := hclauses
      obtain ⟨_, hitems, heq⟩ := rewords_clause.1 hprojection
      obtain rfl := (node.inj heq).2
      have hlist : e.Rewords (s.withItems (s.items ++ columns)).projection
          (s'.withItems (s'.items ++ columns')).projection :=
        rewords_clause.2 ⟨_, List.rel_append hitems hcolumns, rfl⟩
      exact ⟨hdistinct, htop, hlist, hrest⟩
    obtain ⟨_, hclauses, heq⟩ := rewords_clause.1 h
    obtain ⟨hform, rfl⟩ := node.inj heq
    rw [withColumns_of_select? hs, withColumns_of_select? hs']
    refine rewords_clause.2 ⟨_, ?_, congrArg (SyntaxTree.node · _) hform⟩
    simp only [Query.clauses, List.forall₂_cons] at hclauses ⊢
    exact ⟨hclauses.1, hselect, hclauses.2.2⟩

theorem outerColumns_eq_showing (t : SyntaxTree) : t.outerColumns
    = distinctBy referenceName ((showing outerNodes t).filter fun c => c.columnName?.isSome) := by
  have hcolumn : ∀ c : SyntaxTree, c.columnName?.isSome = true → (sight? c.form).isSome = true := by
    intro c hc
    obtain ⟨name, hname⟩ := Option.isSome_iff_exists.1 hc
    rw [columnName?_eq_some.1 hname]
    rfl
  rw [showing, List.filter_filter]
  show distinctBy referenceName _ = _
  congr 1
  refine List.filter_congr fun c _ => ?_
  cases hc : c.columnName?.isSome with
  | false => rw [Bool.false_and]
  | true => rw [hcolumn c hc, Bool.and_self]

theorem outerColumns_subset_showing {t c : SyntaxTree} (hc : c ∈ t.outerColumns) :
    c ∈ showing outerNodes t := by
  rw [outerColumns_eq_showing] at hc
  exact (List.mem_filter.1 (distinctBy_subset hc)).1

/-- What a reworded query filters and sorts by is in the words of the engine. -/
theorem settled_of_mem_referencedColumns (hback : e.ReadsFormulasBack q.toTree)
    (h : e.Rewords q.toTree q'.toTree) (hs' : q'.select? = some s') {c : SyntaxTree}
    (hc : c ∈ referencedColumns q' s') : e.Settled c := by
  obtain ⟨s, hs, hrewords⟩ := exists_select?_of_rewords hback h hs'
  have hselect := Query.select_mem_clauses hs
  have hclause : ∀ t ∈ q.toTree.nodes, ∀ t', e.Rewords t t' → c ∈ t'.outerColumns →
      e.Settled c := by
    intro t ht t' hrewords hc
    obtain rfl := eq_mapNodes_of_rewords (hback.node ht) hrewords
    -- the column is the reworded form of a node of the query
    obtain ⟨m, hm, rfl⟩ := exists_mem_nodes_of_mem_showing isWalk_outerNodes (fun _ => rfl)
      (fun _ => rfl) (outerColumns_subset_showing hc)
    exact settled_of_rewords ((hback.node ht).node hm) (hrewords.node (hback.node ht) hm)
  rcases List.mem_append.1 (distinctBy_subset hc) with hc | hc
  · exact hclause _ (mem_nodes_of_mem_part hselect
      (mem_nodes_of_mem_part s.condition_mem_clauses (mem_nodes_self _))) _ hrewords.condition hc
  · exact hclause _ (mem_nodes_of_mem_part q.orderBy_mem_clauses (mem_nodes_self _)) _
      ((clausewise_rewords e).query h).orderBy hc

variable {ceiling : UInt64}

/-- A query with its columns is put into the words of the engine along with the columns. -/
theorem rewords_appended (hback : e.ReadsFormulasBack q.toTree)
    (h : e.Rewords q.toTree q'.toTree) : e.Rewords (appended true q).toTree
      (q'.withColumns ((columnsToAppend q).map (mapNodes e.wordNode))).toTree := by
  have hcolumns : List.Forall₂ e.Rewords (columnsToAppend q)
      ((columnsToAppend q).map (mapNodes e.wordNode)) := by
    rw [List.forall₂_map_right_iff, List.forall₂_same]
    intro c hc
    obtain ⟨s, hs, -, hreferenced, -⟩ := mem_columnsToAppend.1 hc
    exact h.node hback (mem_nodes_of_mem_referencedColumns hs hreferenced)
  rw [appended_true]
  exact rewords_withColumns (select?_eq_none_of_rewords hback h) h hcolumns

/-- A query gets its columns and is put into the words of the engine. -/
theorem corrected_of_reword (hback : e.ReadsFormulasBack q.toTree) (h : e.reword q = .ok q') :
    corrected (some e) ceiling true q = (limited ceiling.toNat q').withColumns
      ((columnsToAppend q).map (mapNodes e.wordNode)) := by
  rw [corrected, ← limited_withColumns]
  exact transform_functionNames_ok
    (reword_eq_ok.2 (rewords_limited _ (rewords_appended hback (reword_eq_ok.1 h))))

/-- A query in the words of the engine gets its columns and stays in these words. -/
theorem corrected_reworded (hback : e.ReadsFormulasBack q.toTree) (h : e.reword q = .ok q') :
    corrected (some e) ceiling true q'
      = (limited ceiling.toNat q').withColumns (columnsToAppend q') := by
  have hrewords := reword_eq_ok.1 h
  have hcolumns : List.Forall₂ e.Rewords (columnsToAppend q') (columnsToAppend q') := by
    rw [List.forall₂_same]
    intro c hc
    obtain ⟨s', hs', -, hreferenced, -⟩ := mem_columnsToAppend.1 hc
    exact settled_of_mem_referencedColumns hback hrewords hs' hreferenced
  have hsettled : e.Settled q'.toTree := settled_of_rewords hback hrewords
  rw [corrected, appended_true, ← limited_withColumns]
  exact transform_functionNames_ok
    (reword_eq_ok.2 (rewords_limited _ (rewords_withColumns id hsettled hcolumns)))

/-! ## Columns that come in their order -/

theorem columnName?_mapNodes_wordNode (e : Engine) (t : SyntaxTree) :
    (t.mapNodes e.wordNode).columnName? = t.columnName? :=
  columnName?_congr (e.sight?_mapNodes_wordNode t)

theorem referenceName_mapNodes_wordNode (e : Engine) (c : SyntaxTree) :
    referenceName (c.mapNodes e.wordNode) = referenceName c := by
  rw [referenceName, referenceName, columnName?_mapNodes_wordNode]

section

variable {t : SyntaxTree}

theorem outerColumns_of_keepsOrder (h : e.KeepsOrder t) :
    (t.mapNodes e.wordNode).outerColumns = t.outerColumns.map (mapNodes e.wordNode) := by
  have hname : referenceName ∘ mapNodes e.wordNode = referenceName :=
    funext (referenceName_mapNodes_wordNode e)
  have hcolumn : (fun c => c.columnName?.isSome) ∘ mapNodes e.wordNode
      = fun c => c.columnName?.isSome := by
    funext c
    rw [Function.comp_apply, columnName?_mapNodes_wordNode]
  rw [outerColumns_eq_showing, outerColumns_eq_showing, h.showing_wordNode (by simp),
    List.filter_map, hcolumn, distinctBy_map, hname]

theorem columnNames_of_keepsOrder (h : e.KeepsOrder t) :
    (t.mapNodes e.wordNode).columnNames = t.columnNames := by
  -- a column shows itself, so that nothing is lost in what is shown
  have hshowing : ∀ own : SyntaxTree,
      own.nodes.filterMap columnName? = (showing nodes own).filterMap columnName? := by
    intro own
    rw [showing, List.filterMap_filter]
    refine List.filterMap_congr fun n _ => ?_
    cases hn : n.columnName? with
    | none => split <;> rfl
    | some name =>
      rw [columnName?_eq_some.1 hn]
      rfl
  have hname : columnName? ∘ mapNodes e.wordNode = columnName? :=
    funext (columnName?_mapNodes_wordNode e)
  rw [columnNames, columnNames, hshowing, hshowing, h.showing_wordNode (by simp),
    List.filterMap_map, hname]

theorem callsAggregate_of_keepsOrder (h : e.KeepsOrder t) :
    (t.mapNodes e.wordNode).nodes.any isAggregateCall = t.nodes.any isAggregateCall := by
  -- an aggregate call shows itself
  have hshowing : ∀ own : SyntaxTree,
      own.nodes.any isAggregateCall = (showing nodes own).any isAggregateCall := by
    intro own
    rw [showing, List.any_filter]
    congr 1
    funext n
    cases hn : n.isAggregateCall with
    | false => rw [Bool.and_false]
    | true =>
      rw [isAggregateCall_iff.1 hn]
      rfl
  have haggregate : isAggregateCall ∘ mapNodes e.wordNode = isAggregateCall := by
    funext n
    rw [Function.comp_apply, Bool.eq_iff_iff, isAggregateCall_iff, isAggregateCall_iff,
      sight?_mapNodes_wordNode]
  rw [hshowing, hshowing, h.showing_wordNode (by simp), List.any_map, haggregate]

end

theorem bucketOrder_map {α β : Type} {name : β → String} (f : α → β) (count : Nat) (xs : List α) :
    bucketOrder name count (xs.map f) = (bucketOrder (name ∘ f) count xs).map f := by
  rw [bucketOrder, bucketOrder, inSlots, inSlots, List.map_flatMap]
  refine List.flatMap_congr fun slot _ => ?_
  rw [List.filter_map]
  rfl

section

variable (hback : e.ReadsFormulasBack s.toTree) (hkeeps : e.KeepsOrder s.toTree)
  (h : SelectRewords e s s')

include hback h

theorem SelectRewords.items_eq : s'.items = s.items.map (mapNodes e.wordNode) := by
  have hlist := eq_mapNodes_of_rewords (hback.part s.projection_mem_clauses) h.projection
  rw [Select.projection, Select.projection, (keeps_wordNode e).clause] at hlist
  exact (node.inj hlist).2

include hkeeps

theorem SelectRewords.fields_eq : s'.fields = s.fields := by
  have hlist := eq_mapNodes_of_rewords (hback.part s.projection_mem_clauses) h.projection
  have hkept : e.KeepsOrder s.projection :=
    hkeeps.node (mem_nodes_of_mem_part s.projection_mem_clauses (mem_nodes_self _))
  have halias : Select.itemAlias? ∘ mapNodes e.wordNode = Select.itemAlias? := by
    funext item
    ext label
    rw [Function.comp_apply, Select.itemAlias?_eq_some, Select.itemAlias?_eq_some,
      (keeps_wordNode e).form_eq_clause]
  rw [Select.fields, Select.fields, Select.aliases, Select.aliases, hlist,
    columnNames_of_keepsOrder hkept, h.items_eq hback, List.filterMap_map, halias]

theorem SelectRewords.takesColumns_of_keepsOrder : takesColumns s' = takesColumns s := by
  have hlist := eq_mapNodes_of_rewords (hback.part s.projection_mem_clauses) h.projection
  have hkept : e.KeepsOrder s.projection :=
    hkeeps.node (mem_nodes_of_mem_part s.projection_mem_clauses (mem_nodes_self _))
  have hwildcard : Select.isWildcard ∘ mapNodes e.wordNode = Select.isWildcard := by
    funext item
    rw [Function.comp_apply, Bool.eq_iff_iff, isWildcard_iff, isWildcard_iff]
    simp only [(keeps_wordNode e).form_eq_clause]
  have hgrouped : s'.isGrouped = s.isGrouped := by
    rw [Bool.eq_iff_iff, isGrouped_iff, isGrouped_iff]
    exact not_congr (h.grouping.exprs_eq_nil (hback.part s.grouping_mem_clauses))
  rw [takesColumns, takesColumns, Select.hasWildcard, Select.hasWildcard, Select.aggregates,
    Select.aggregates, Select.callsAggregate, Select.callsAggregate, hlist,
    callsAggregate_of_keepsOrder hkept, h.items_eq hback, List.any_map, hwildcard, hgrouped]

end

/-- Where rewording keeps the order of what is shown, a reworded query has the same columns to
append, in the same order. -/
theorem columnsToAppend_of_keepsOrder (hback : e.ReadsFormulasBack q.toTree)
    (hkeeps : e.KeepsOrder q.toTree) (h : e.Rewords q.toTree q'.toTree) :
    columnsToAppend q' = (columnsToAppend q).map (mapNodes e.wordNode) := by
  cases hs : q.select? with
  | none =>
    rw [columnsToAppend, columnsToAppend, hs, select?_eq_none_of_rewords hback h hs]
    rfl
  | some s =>
    obtain ⟨s', hs', hrelated⟩ := (clausewise_rewords e).exists_select? h hs
    have hrewords : SelectRewords e s s' := hrelated
    have hselect : s.toTree ∈ q.toTree.nodes :=
      mem_nodes_of_mem_part (Query.select_mem_clauses hs) (mem_nodes_self _)
    have hbacks := hback.node hselect
    have hkept := hkeeps.node hselect
    have hcondition := eq_mapNodes_of_rewords (hbacks.part s.condition_mem_clauses) hrewords.condition
    have horder := eq_mapNodes_of_rewords (hback.part q.orderBy_mem_clauses)
      ((clausewise_rewords e).query h).orderBy
    have hname : referenceName ∘ mapNodes e.wordNode = referenceName :=
      funext (referenceName_mapNodes_wordNode e)
    have hreferenced : referencedColumns q' s'
        = (referencedColumns q s).map (mapNodes e.wordNode) := by
      rw [referencedColumns, referencedColumns, Select.conditionColumns, Select.conditionColumns,
        Query.orderColumns, Query.orderColumns, hcondition, horder,
        outerColumns_of_keepsOrder (hkept.node
          (mem_nodes_of_mem_part s.condition_mem_clauses (mem_nodes_self _))),
        outerColumns_of_keepsOrder (hkeeps.node
          (mem_nodes_of_mem_part q.orderBy_mem_clauses (mem_nodes_self _))),
        ← List.map_append, distinctBy_map, hname]
    -- the same columns are missing, and each goes into the slot of its name
    have hmissing : isMissing s' ∘ mapNodes e.wordNode = isMissing s := by
      funext c
      rw [Function.comp_apply, isMissing, isMissing, hrewords.fields_eq hbacks hkept,
        referenceName_mapNodes_wordNode]
    have happended : appendedColumns q' s'
        = (appendedColumns q s).map (mapNodes e.wordNode) := by
      rw [appendedColumns, appendedColumns, hreferenced, List.length_map, List.filter_map,
        bucketOrder_map, hname, hmissing]
    rw [columnsToAppend_of_select? hs, columnsToAppend_of_select? hs', happended,
      hrewords.takesColumns_of_keepsOrder hbacks hkept]
    split <;> rfl

/-! ## Names that are appended -/

theorem hasName_columnsToAppend {name : String} (hname : lower name ∉ internalColumns) :
    hasName ((columnsToAppend q).map referenceName) name = true
      ↔ ∃ s, q.select? = some s ∧ takesColumns s = true ∧ hasName s.fields name = false
        ∧ ∃ c ∈ referencedColumns q s, sameName name (referenceName c) = true := by
  have hlower : ∀ {c}, sameName name (referenceName c) = true →
      lower (referenceName c) = lower name := by
    intro c hc
    rw [sameName, beq_iff_eq] at hc
    exact hc.symm
  rw [hasName, List.any_map, List.any_eq_true]
  constructor
  · rintro ⟨c, hc, hsame⟩
    obtain ⟨s, hs, htakes, hreferenced, hmissing⟩ := mem_columnsToAppend.1 hc
    rw [isMissing, Bool.and_eq_true, Bool.not_eq_true', hasName_congr (hlower hsame)] at hmissing
    exact ⟨s, hs, htakes, hmissing.1, c, hreferenced, hsame⟩
  · rintro ⟨s, hs, htakes, hfields, c, hreferenced, hsame⟩
    -- no spelling of the name is that of a reserved column
    have hordinary : internalColumn? (referenceName c) = none := by
      refine Option.eq_none_iff_forall_ne_some.2 fun column hcolumn => hname ?_
      rw [← hlower hsame, lower_of_internalColumn? hcolumn]
      exact mem_internalColumns_of_internalColumn? hcolumn
    have hmissing : isMissing s c = true := by
      rw [isMissing, hasName_congr (hlower hsame), hfields, hordinary]
      rfl
    exact ⟨c, mem_columnsToAppend.2 ⟨s, hs, htakes, hreferenced, hmissing⟩, hsame⟩

/-- In whatever order, a query and its reworded form have the same names to append, letter case and
reserved columns aside. -/
theorem hasName_columnsToAppend_of_rewords (hback : e.ReadsFormulasBack q.toTree)
    (hplain : PlainDateDifferences q.toTree) (h : e.Rewords q.toTree q'.toTree) {name : String}
    (hname : lower name ∉ internalColumns) :
    hasName ((columnsToAppend q').map referenceName) name
      = hasName ((columnsToAppend q).map referenceName) name := by
  -- what decides whether a name is appended is the same on both sides
  have hsides : ∀ s s', q.select? = some s → SelectRewords e s s' →
      takesColumns s' = takesColumns s ∧ hasName s'.fields name = hasName s.fields name
        ∧ ((∃ c ∈ referencedColumns q' s', sameName name (referenceName c) = true)
          ↔ ∃ c ∈ referencedColumns q s, sameName name (referenceName c) = true) := by
    intro s s' hs hrewords
    have hbacks := hback.part (Query.select_mem_clauses hs)
    have hplains := hplain.part (Query.select_mem_clauses hs)
    refine ⟨hrewords.takesColumns_eq hbacks hplains, ?_,
      exists_mem_referencedColumns_iff_of_rewords hback hplain h hs hrewords⟩
    rw [Bool.eq_iff_iff]
    exact hrewords.hasName_fields_iff hbacks hplains
  rw [Bool.eq_iff_iff, hasName_columnsToAppend hname, hasName_columnsToAppend hname]
  constructor
  · rintro ⟨s', hs', htakes, hfields, hreferenced⟩
    obtain ⟨s, hs, hrewords⟩ := exists_select?_of_rewords hback h hs'
    obtain ⟨htakes', hfields', hreferenced'⟩ := hsides s s' hs hrewords
    exact ⟨s, hs, htakes' ▸ htakes, hfields' ▸ hfields, hreferenced'.1 hreferenced⟩
  · rintro ⟨s, hs, htakes, hfields, hreferenced⟩
    obtain ⟨s', hs', hrewords⟩ := (clausewise_rewords e).exists_select? h hs
    obtain ⟨htakes', hfields', hreferenced'⟩ := hsides s s' hs hrewords
    exact ⟨s', hs', htakes'.trans htakes, hfields'.trans hfields, hreferenced'.2 hreferenced⟩

end Correction

end MetricQuery
