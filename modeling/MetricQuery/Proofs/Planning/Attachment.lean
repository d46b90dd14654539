import MetricQuery.Planning.Physical
import MetricQuery.Proofs.Sql.Clausewise

/-!
# Attachment — what putting the derived table in its place leaves as it is

The derived table takes the place of tables in the `FROM` clause of a `SELECT`. Outside that clause
the query stays as it is, and within it each table is followed one by one.
-/

namespace MetricQuery

open MetricQuery.Sql

/-! ## Changes of the tables of a `FROM` clause -/

namespace Sql

variable {ε : Type} {f : SyntaxTree → Except ε SyntaxTree} {t t' : SyntaxTree} {s s' : Select}

/-- A join is changed in its first part, the table. -/
theorem SyntaxTree.mapJoined_eq_ok (h : t.mapJoined f = .ok t') :
    (t' = t ∧ t.joinedTable? = none) ∨ ∃ kind natural isGlobal table table' rest,
      t = .clause (.join kind natural isGlobal) (table :: rest) ∧ f table = .ok table'
        ∧ t' = .clause (.join kind natural isGlobal) (table' :: rest) := by
  unfold mapJoined at h
  split at h
  · next kind natural isGlobal table rest =>
    cases htable : f table with
    | error err =>
      rw [htable] at h
      cases h
    | ok table' =>
      rw [htable] at h
      exact .inr ⟨kind, natural, isGlobal, table, table', rest, rfl, htable, (Except.ok.inj h).symm⟩
  · next hno =>
    refine .inl ⟨(Except.ok.inj h).symm, ?_⟩
    -- what is no join has no table either
    unfold joinedTable?
    split
    · exact absurd rfl (hno _ _ _ _ _)
    · rfl

/-- A table and the tables that are joined to it are changed one by one. -/
theorem SyntaxTree.mapSources_eq_ok (h : t.mapSources f = .ok t') :
    (t' = t ∧ t.sources = []) ∨ ∃ table table' joins joins',
      t = .clause .joined (table :: joins) ∧ f table = .ok table'
        ∧ List.Forall₂ (fun join join' => join.mapJoined f = .ok join') joins joins'
        ∧ t' = .clause .joined (table' :: joins') := by
  unfold SyntaxTree.mapSources at h
  split at h
  · next table joins =>
    -- the first table is done before the joins, and the first failure is the result
    cases htable : f table with
    | error err =>
      rw [htable] at h
      cases h
    | ok table' =>
      cases hjoins : joins.mapM (mapJoined f) with
      | error err =>
        rw [htable] at h
        dsimp only [bind, Except.bind] at h
        rw [hjoins] at h
        cases h
      | ok joins' =>
        rw [htable] at h
        dsimp only [bind, Except.bind] at h
        rw [hjoins] at h
        exact .inr ⟨table, table', joins, joins', rfl, htable, mapM_eq_ok.1 hjoins,
          (Except.ok.inj h).symm⟩
  · next hno =>
    refine .inl ⟨(Except.ok.inj h).symm, ?_⟩
    unfold sources
    split
    · exact absurd rfl (hno _ _)
    · rfl

/-- The tables of a `SELECT` are changed where they stand in its `FROM` clause. -/
theorem Select.mapSources_eq_ok (h : s.mapSources f = .ok s') :
    (s' = s ∧ ∀ tables, s.sources ≠ .clause .from tables) ∨ ∃ tables tables',
      s.sources = .clause .from tables ∧ s' = { s with sources := .clause .from tables' }
      ∧ List.Forall₂ (fun t t' => t.mapSources f = .ok t') tables tables' := by
  unfold Select.mapSources at h
  split at h
  · next tables heq =>
    cases hmap : tables.mapM (SyntaxTree.mapSources f) with
    | error err =>
      rw [hmap] at h
      cases h
    | ok tables' =>
      rw [hmap] at h
      exact .inr ⟨tables, tables', heq, (Except.ok.inj h).symm, mapM_eq_ok.1 hmap⟩
  · next hno => exact .inl ⟨(Except.ok.inj h).symm, fun tables heq => hno tables heq⟩

/-! ### Changes that succeed -/

theorem exists_mapM_ok {α β : Type} {f : α → Except ε β} {xs : List α}
    (h : ∀ x ∈ xs, ∃ y, f x = .ok y) : ∃ ys, xs.mapM f = .ok ys := by
  simp only [mapM_eq_ok]
  induction xs with
  | nil => exact ⟨[], .nil⟩
  | cons x xs ih =>
    obtain ⟨y, hy⟩ := h x (.head _)
    obtain ⟨ys, hys⟩ := ih fun x hx => h x (.tail _ hx)
    exact ⟨y :: ys, .cons hy hys⟩

theorem SyntaxTree.exists_mapJoined (h : ∀ table ∈ t.joinedTable?, ∃ table', f table = .ok table') :
    ∃ t', t.mapJoined f = .ok t' := by
  unfold mapJoined
  split
  · next table rest =>
    obtain ⟨table', htable⟩ := h table rfl
    rw [htable]
    exact ⟨_, rfl⟩
  · exact ⟨_, rfl⟩

theorem SyntaxTree.exists_mapSources (h : ∀ table ∈ t.sources, ∃ table', f table = .ok table') :
    ∃ t', t.mapSources f = .ok t' := by
  unfold mapSources
  split
  · next table joins =>
    obtain ⟨table', htable⟩ := h table (.head _)
    obtain ⟨joins', hjoins⟩ : ∃ joins', joins.mapM (mapJoined f) = .ok joins' := by
      refine exists_mapM_ok fun join hjoin => exists_mapJoined fun joined hjoined => ?_
      exact h joined (.tail _ (List.mem_filterMap.2 ⟨join, hjoin, hjoined⟩))
    refine ⟨.clause .joined (table' :: joins'), ?_⟩
    rw [htable]
    dsimp only [bind, Except.bind]
    rw [hjoins]
    rfl
  · exact ⟨_, rfl⟩

/-- A change that succeeds for each table that is read succeeds for the `SELECT`. -/
theorem Select.exists_mapSources (h : ∀ table ∈ s.sourceTables, ∃ table', f table = .ok table') :
    ∃ s', s.mapSources f = .ok s' := by
  unfold mapSources
  split
  · next tables heq =>
    obtain ⟨tables', htables⟩ : ∃ tables', tables.mapM (SyntaxTree.mapSources f) = .ok tables' := by
      refine exists_mapM_ok fun t ht => SyntaxTree.exists_mapSources fun table htable => ?_
      have hparts : s.sources.parts = tables := by rw [heq]; rfl
      exact h table (List.mem_flatMap.2 ⟨t, hparts ▸ ht, htable⟩)
    rw [htables]
    exact ⟨_, rfl⟩
  · exact ⟨_, rfl⟩

end Sql

/-! ## The query -/

namespace Physical

variable {name inner : String} {q q' : Query}

/-- Only the body of a query changes, and only if it is a `SELECT`. -/
theorem attachSource_eq_ok (h : attachSource name inner q = .ok q') :
    (q.select? = none ∧ q' = q) ∨ ∃ s s', q.select? = some s
      ∧ s.mapSources (attachTo name inner) = .ok s' ∧ q' = { q with body := s'.toTree } := by
  unfold attachSource at h
  cases hs : q.select? with
  | none =>
    rw [hs] at h
    exact .inl ⟨rfl, (Except.ok.inj h).symm⟩
  | some s =>
    rw [hs] at h
    cases hmap : s.mapSources (attachTo name inner) with
    | error err =>
      simp only [hmap] at h
      cases h
    | ok s' =>
      simp only [hmap] at h
      exact .inr ⟨s, s', rfl, hmap, (Except.ok.inj h).symm⟩

/-- The derived table can be attached if it can be read under each name that is asked for. -/
theorem exists_attachSource (h : ∀ s, q.select? = some s → ∀ table ∈ s.sourceTables,
      bearsName name table = true →
        ∃ derived, derivedTable inner ((table.boundName?.map Ident.render).getD "") = .ok derived) :
    ∃ q', attachSource name inner q = .ok q' := by
  unfold attachSource
  cases hs : q.select? with
  | none => exact ⟨q, rfl⟩
  | some s =>
    obtain ⟨s', hs'⟩ : ∃ s', s.mapSources (attachTo name inner) = .ok s' := by
      refine Select.exists_mapSources fun table htable => ?_
      unfold attachTo
      split
      · next hbears => exact h s hs table htable hbears
      · exact ⟨table, rfl⟩
    dsimp only
    rw [hs']
    exact ⟨_, rfl⟩

theorem exists_select?_of_attachSource (h : attachSource name inner q = .ok q') {s : Select}
    (hs : q.select? = some s) : ∃ s', q'.select? = some s' := by
  rcases attachSource_eq_ok h with ⟨-, rfl⟩ | ⟨_, s', -, -, rfl⟩
  · exact ⟨s, hs⟩
  · exact ⟨s', rfl⟩

theorem orderBy_of_attachSource (h : attachSource name inner q = .ok q') :
    q'.orderBy = q.orderBy := by
  rcases attachSource_eq_ok h with ⟨-, rfl⟩ | ⟨s, s', -, -, rfl⟩ <;> rfl

theorem limit_of_attachSource (h : attachSource name inner q = .ok q') : q'.limit = q.limit := by
  rcases attachSource_eq_ok h with ⟨-, rfl⟩ | ⟨s, s', -, -, rfl⟩ <;> rfl

/-- The items of a `SELECT` stay. -/
theorem items_of_attachSource (h : attachSource name inner q = .ok q') :
    q'.select?.map Select.items = q.select?.map Select.items := by
  rcases attachSource_eq_ok h with ⟨-, rfl⟩ | ⟨s, s', hs, hmap, rfl⟩
  · rfl
  · have hselect : ({ q with body := s'.toTree } : Query).select? = some s' := rfl
    rw [hselect, hs]
    rcases Select.mapSources_eq_ok hmap with ⟨rfl, -⟩ | ⟨tables, tables', -, rfl, -⟩ <;> rfl

theorem attachSource_of_ofQuery {s : Schema} {made : Option SynthesizedMetric}
    {t : LogicalTable} {physical : Query} {warnings : List Warning}
    (h : ofQuery s made t q = .ok (physical, warnings)) :
    attachSource t.name (SourceQuery.ofTable (scopeOf s made q) made t).render
      (q.renameColumns (fieldNames (scopeOf s made q) q.fields)) = .ok physical := by
  simp only [ofQuery, bind, Except.bind, pure, Except.pure] at h
  split at h
  · cases h
  · next heq =>
    cases h
    exact heq

theorem toOption_ofQuery (s : Schema) (made : Option SynthesizedMetric) (t : LogicalTable)
    (q : Query) : (ofQuery s made t q).toOption.map Prod.fst
      = (attachSource t.name (SourceQuery.ofTable (scopeOf s made q) made t).render
        (q.renameColumns (fieldNames (scopeOf s made q) q.fields))).toOption := by
  simp only [ofQuery, bind, Except.bind, pure, Except.pure]
  cases attachSource t.name (SourceQuery.ofTable (scopeOf s made q) made t).render
    (q.renameColumns (fieldNames (scopeOf s made q) q.fields)) with
  | error err => rfl
  | ok physical => rfl

/-- What there has been between a request and its physical query. -/
theorem ofRequest_eq_ok {request : LogicalRequest} {s : Schema}
    {made : Option SynthesizedMetric} {p : Physical} (h : ofRequest request s made = .ok p) :
    ∃ t rest q physical warnings, request.tables = t :: rest ∧ Query.parse request.sql = .ok q
      ∧ ofQuery s made t q = .ok (physical, warnings)
      ∧ p = ⟨physical.render, q.aggregates, warnings⟩ := by
  unfold ofRequest at h
  split at h
  · cases h
  · next t rest htables =>
    split at h
    · cases h
    · next q hread =>
      cases hquery : ofQuery s made t q with
      | error err =>
        rw [hquery] at h
        cases h
      | ok answer =>
        rw [hquery] at h
        exact ⟨t, rest, q, answer.1, answer.2, htables, hread, hquery, (Except.ok.inj h).symm⟩

end Physical

end MetricQuery
