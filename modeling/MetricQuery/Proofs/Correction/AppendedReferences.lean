import Mathlib.Data.List.Pairwise
import MetricQuery.Proofs.Correction.ColumnOrder

/-!
# Appended references — which columns a query gets, and in which order

A plain `SELECT` gets the first reference to each name that its conditions and its sorting refer to
and that its list does not have. What is recognised as a reserved column is left out; the references
come in the order of the slots of their names, and those of one slot in reading order.
-/

namespace MetricQuery.Correction

open MetricQuery.Text MetricQuery.Sql MetricQuery.Sql.SyntaxTree

theorem pairwise_inSlots {α : Type} {R : α → α → Prop} {xs : List α} (name : α → String)
    (slots : Nat) (h : xs.Pairwise R) : (inSlots name slots xs).Pairwise fun x y =>
      slotOf slots (name x) < slotOf slots (name y)
        ∨ slotOf slots (name x) = slotOf slots (name y) ∧ R x y := by
  have hslot : ∀ {slot x}, x ∈ xs.filter (fun x => slotOf slots (name x) == slot) →
      slotOf slots (name x) = slot := fun hx => by simpa using (List.mem_filter.1 hx).2
  refine List.pairwise_flatMap.2 ⟨fun slot _ => ?_, ?_⟩
  · refine (h.filter _).imp_of_mem fun hx hy hR => .inr ⟨?_, hR⟩
    rw [hslot hx, hslot hy]
  · refine List.pairwise_lt_range.imp fun hlt x hx y hy => .inl ?_
    rw [hslot hx, hslot hy]
    exact hlt

variable {q : Query} {s : Select} {c : SyntaxTree}

/-- The columns in the `WHERE` and `ORDER BY` clauses of a query, in reading order. What stands in a
nested query belongs to that query. -/
def references (q : Query) (s : Select) : List SyntaxTree :=
  (s.condition.outerNodes ++ q.orderBy.outerNodes).filter fun c => c.columnName?.isSome

/-- The place of the first reference to a name. -/
def referencePlace (q : Query) (s : Select) (name : String) : Nat :=
  firstPlace referenceName (references q s) name

/-- The number of slots for the names that a query refers to. -/
def referenceSlots (q : Query) (s : Select) : Nat :=
  slotsFor (distinctNames ((references q s).map referenceName)).length

theorem referencedColumns_eq (q : Query) (s : Select) :
    referencedColumns q s = distinctBy referenceName (references q s) := by
  rw [references, List.filter_append]
  exact distinctBy_append_distinctBy _ _

theorem length_referencedColumns (q : Query) (s : Select) : (referencedColumns q s).length
    = (distinctNames ((references q s).map referenceName)).length := by
  rw [referencedColumns_eq, ← map_distinctBy, List.length_map]

theorem mem_referencedColumns :
    c ∈ referencedColumns q s ↔ (references q s)[referencePlace q s (referenceName c)]? = some c := by
  rw [referencedColumns_eq]
  exact mem_distinctBy_iff

theorem isMissing_eq_true : isMissing s c = true
    ↔ hasName s.fields (referenceName c) = false ∧ internalColumn? (referenceName c) = none := by
  rw [isMissing, Bool.and_eq_true, Bool.not_eq_true', Option.isNone_iff_eq_none]

theorem takesColumns_eq_true : takesColumns s = true
    ↔ s.hasWildcard = false ∧ s.callsAggregate = false ∧ s.isGrouped = false := by
  simp [takesColumns, Select.aggregates]

theorem mem_appendedColumns_iff : c ∈ appendedColumns q s
    ↔ (references q s)[referencePlace q s (referenceName c)]? = some c
      ∧ hasName s.fields (referenceName c) = false ∧ internalColumn? (referenceName c) = none := by
  rw [mem_appendedColumns, mem_referencedColumns, isMissing_eq_true]

/-- The order in which a query gets its columns: by the slots of their names, and then by their
places. -/
def ComesBefore (q : Query) (s : Select) (c d : SyntaxTree) : Prop :=
  slotOf (referenceSlots q s) (referenceName c) < slotOf (referenceSlots q s) (referenceName d)
    ∨ slotOf (referenceSlots q s) (referenceName c) = slotOf (referenceSlots q s) (referenceName d)
      ∧ referencePlace q s (referenceName c) < referencePlace q s (referenceName d)

theorem pairwise_appendedColumns (q : Query) (s : Select) :
    (appendedColumns q s).Pairwise (ComesBefore q s) := by
  have hplaces : ((referencedColumns q s).filter (isMissing s)).Pairwise fun c d =>
      referencePlace q s (referenceName c) < referencePlace q s (referenceName d) := by
    rw [referencedColumns_eq]
    exact (pairwise_firstPlace _).filter _
  rw [appendedColumns, length_referencedColumns]
  exact pairwise_inSlots referenceName _ hplaces

theorem pairwise_referenceName (q : Query) (s : Select) : (appendedColumns q s).Pairwise fun c d =>
    sameName (referenceName c) (referenceName d) = false := by
  have hsymm : Std.Symm fun c d => sameName (referenceName c) (referenceName d) = false :=
    ⟨fun c d h => by rwa [sameName_comm]⟩
  have hdistinct : (referencedColumns q s).Pairwise fun c d =>
      sameName (referenceName c) (referenceName d) = false := pairwise_distinctBy _ _
  -- the slots do not tell, as a name has other slots in other letters, but the columns are different
  refine (pairwise_appendedColumns q s).imp_of_mem fun hc hd hbefore => ?_
  refine hdistinct.forall (mem_appendedColumns.1 hc).1 (mem_appendedColumns.1 hd).1 ?_
  rintro rfl
  rcases hbefore with h | ⟨-, h⟩ <;> exact absurd h (Nat.lt_irrefl _)

/-- Letter case aside, the names that are appended are those referred to that are neither in the list
nor reserved, exactly if no reserved column is missed. -/
theorem hasName_appendedColumns_iff (hs : q.select? = some s) (htakes : takesColumns s = true) :
    (∀ name, hasName ((appendedColumns q s).map referenceName) name = true
      ↔ (∃ c ∈ references q s, sameName name (referenceName c) = true)
        ∧ hasName s.fields name = false ∧ lower name ∉ internalColumns) ↔ ¬ MissesReserved q := by
  have hcolumns : columnsToAppend q = appendedColumns q s := by
    rw [columnsToAppend_of_select? hs, if_pos htakes]
  have hreferenced : ∀ name, (∃ c ∈ referencedColumns q s, sameName name (referenceName c) = true)
      ↔ ∃ c ∈ references q s, sameName name (referenceName c) = true := by
    intro name
    rw [referencedColumns_eq, exists_mem_distinctBy_iff]
  constructor
  · rintro hnames ⟨own, hown, -, c, hc, hmissing, hreserved⟩
    -- the column that is missed has been appended under a reserved name
    obtain rfl : s = own := Option.some.inj (hs.symm.trans hown)
    have hname : hasName ((appendedColumns q s).map referenceName) (referenceName c) = true :=
      hasName_map_iff.2 ⟨c, mem_appendedColumns.2 ⟨hc, hmissing⟩, sameName_self _⟩
    exact ((hnames _).1 hname).2.2 hreserved
  · intro hno name
    constructor
    · intro hname
      have hordinary : lower name ∉ internalColumns := by
        obtain ⟨c, hc, hsame⟩ := hasName_map_iff.1 hname
        obtain ⟨hmem, hmissing⟩ := mem_appendedColumns.1 hc
        rw [sameName, beq_iff_eq] at hsame
        exact fun hreserved => hno ⟨s, hs, htakes, c, hmem, hmissing, hsame ▸ hreserved⟩
      rw [← hcolumns, hasName_columnsToAppend hordinary] at hname
      obtain ⟨own, hown, -, hfields, hc⟩ := hname
      obtain rfl : s = own := Option.some.inj (hs.symm.trans hown)
      exact ⟨(hreferenced name).1 hc, hfields, hordinary⟩
    · rintro ⟨hc, hfields, hordinary⟩
      rw [← hcolumns, hasName_columnsToAppend hordinary]
      exact ⟨s, hs, htakes, hfields, (hreferenced name).2 hc⟩

/-! ## The stage -/

theorem appended_of_takesColumns (hs : q.select? = some s) (htakes : takesColumns s = true) :
    appended true q = { q with body := (s.withItems (s.items ++ appendedColumns q s)).toTree } := by
  rw [appended_true, withColumns_of_select? hs, columnsToAppend_of_select? hs, if_pos htakes]

theorem appended_eq_self_iff : appended true q = q ↔ appendColumns? q = none := by
  constructor
  · intro heq
    refine Option.eq_none_iff_forall_ne_some.2 fun q' happend => ne_of_appendColumns? happend ?_
    rw [appended, if_pos rfl, happend] at heq
    exact heq
  · exact fun hnone => appended_eq_self fun _ => hnone

variable {engine : Option Engine} {d : Draft}

theorem run_appendColumns_of_eq (hread : d.read = .ok q) (h : appended true q = q) :
    Stage.appendColumns.run engine d = (d.withQuery q, .ok .unchanged) := by
  show Stage.edit appendColumns? d = _
  rw [Stage.edit, Stage.onQuery, hread]
  dsimp only
  rw [appended_eq_self_iff.1 h]

theorem run_appendColumns_of_ne (hread : d.read = .ok q) (h : appended true q ≠ q) :
    Stage.appendColumns.run engine d = ((d.withQuery (appended true q)).commit, .ok .applied) := by
  show Stage.edit appendColumns? d = _
  rw [Stage.edit, Stage.onQuery, hread]
  dsimp only
  cases happend : appendColumns? q with
  | none => exact absurd (appended_eq_self_iff.2 happend) h
  | some q' => rw [appended, if_pos rfl, happend, Option.getD_some]

/-- The query that the stage leaves has nothing more to append. -/
theorem run_appendColumns_twice (hread : d.read = .ok q) :
    Stage.appendColumns.run engine (Stage.appendColumns.run engine d).1
      = ((Stage.appendColumns.run engine d).1, .ok .unchanged) := by
  have hsettled : appended true (appended true q) = appended true q :=
    appended_eq_self_iff.2 appendColumns?_appended_true
  by_cases heq : appended true q = q
  · rw [run_appendColumns_of_eq hread heq]
    exact run_appendColumns_of_eq rfl heq
  · rw [run_appendColumns_of_ne hread heq]
    exact run_appendColumns_of_eq rfl hsettled

/-- What appending columns does. A `SELECT` without wildcards, aggregate calls and grouping gets
columns behind its list and is otherwise the same: the first reference to each name in its `WHERE` and
`ORDER BY` clauses that the list neither refers to nor declares and that is not recognised as a
reserved column, no two of one name, by slots and then by places. Letter case aside, these are all the
names but the reserved ones exactly if no reserved column is missed. Any other query stays, and a
draft that the stage has been over stays at a second time. -/
theorem appended_references (q : Query) :
    (∀ s, q.select? = some s →
      s.hasWildcard = false → s.callsAggregate = false → s.isGrouped = false →
      ∃ columns, appended true q = { q with body := (s.withItems (s.items ++ columns)).toTree }
        ∧ (∀ c, c ∈ columns ↔ (references q s)[referencePlace q s (referenceName c)]? = some c
          ∧ hasName s.fields (referenceName c) = false
          ∧ internalColumn? (referenceName c) = none)
        ∧ columns.Pairwise (fun c d => sameName (referenceName c) (referenceName d) = false)
        ∧ columns.Pairwise (ComesBefore q s)
        ∧ ((∀ name, hasName (columns.map referenceName) name = true
            ↔ (∃ c ∈ references q s, sameName name (referenceName c) = true)
              ∧ hasName s.fields name = false ∧ lower name ∉ internalColumns)
          ↔ ¬ MissesReserved q))
      ∧ ((∀ s, q.select? = some s →
          s.hasWildcard = true ∨ s.callsAggregate = true ∨ s.isGrouped = true) →
        appended true q = q)
      ∧ ∀ (engine : Option Engine) (d : Draft), d.read = .ok q →
        (appended true q = q → Stage.appendColumns.run engine d = (d.withQuery q, .ok .unchanged))
        ∧ (appended true q ≠ q →
          Stage.appendColumns.run engine d = ((d.withQuery (appended true q)).commit, .ok .applied))
        ∧ Stage.appendColumns.run engine (Stage.appendColumns.run engine d).1
          = ((Stage.appendColumns.run engine d).1, .ok .unchanged) := by
  refine ⟨fun s hs hwildcard haggregate hgrouped => ?_, fun hno => ?_, fun engine d hread => ?_⟩
  · have htakes := takesColumns_eq_true.2 ⟨hwildcard, haggregate, hgrouped⟩
    exact ⟨appendedColumns q s, appended_of_takesColumns hs htakes, fun c => mem_appendedColumns_iff,
      pairwise_referenceName q s, pairwise_appendedColumns q s,
      hasName_appendedColumns_iff hs htakes⟩
  · refine appended_eq_self_iff.2 (appendColumns?_eq_none.2 fun s hs htakes => ?_)
    obtain ⟨hwildcard, haggregate, hgrouped⟩ := takesColumns_eq_true.1 htakes
    -- each of the three reasons contradicts that the columns would be taken
    rcases hno s hs with h | h | h
    · rw [h] at hwildcard
      cases hwildcard
    · rw [h] at haggregate
      cases haggregate
    · rw [h] at hgrouped
      cases hgrouped
  · exact ⟨run_appendColumns_of_eq hread, run_appendColumns_of_ne hread,
      run_appendColumns_twice hread⟩

/-- A condition on the column `sys_imp_week`, whose last letter is the Kelvin sign. In lower case that
is the letter `k`, and a search of the text finds the reserved column, but it is appended. -/
theorem reserved_column_appended :
    lower "sys_imp_wee\u212a" = "sys_imp_week" ∧ "sys_imp_week" ∈ internalColumns
      ∧ internalColumnsIn "select a from t where sys_imp_wee\u212a = 1" = ["sys_imp_week"]
      ∧ ((Query.parse "select a from t where sys_imp_wee\u212a = 1").toOption.map fun q =>
          (q.select?.map fun s => (s.hasWildcard, s.callsAggregate, s.isGrouped),
            (appended true q).render))
        = some (some (false, false, false),
          "SELECT a, sys_imp_wee\u212a FROM t WHERE sys_imp_wee\u212a = 1") := by
  decide +kernel

end MetricQuery.Correction
