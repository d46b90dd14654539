import MetricQuery.Proofs.Planning.Attachment
import MetricQuery.Proofs.Planning.Emission

/-!
# Sort names — what becomes of the output names that a query sorts by

A query may sort by an output name that its `SELECT` list declares. A declared element takes
precedence over an output name wherever a name is resolved, so the planner writes the item under the
technical name of the element that the output name finds, and leaves it alone if there is none. The
list itself keeps its output names.
-/

namespace MetricQuery

open MetricQuery.Sql MetricQuery.Text

namespace Sql

/-- The column by which an item of an `ORDER BY` clause sorts, if it is one without qualifiers. -/
def SyntaxTree.sortName? : SyntaxTree → Option Ident
  | .node (.clause (.orderItem _ _)) (.node (.expr (.column [] name)) _ :: _) => some name
  | _ => none

/-- The column without qualifiers by which a query sorts at a place, if it sorts by one there. -/
def Query.sortName? (q : Query) (i : Nat) : Option Ident :=
  q.orderBy.parts[i]?.bind SyntaxTree.sortName?

/-- The output names that the query declares. -/
def Query.outputNames (q : Query) : List String :=
  (q.select?.map Select.aliases).getD []

theorem SyntaxTree.exists_sortName?_of_respells {P : String → String → Prop} {t t' : SyntaxTree}
    {name : Ident} (h : t.Respells P t') (hname : t.sortName? = some name) :
    ∃ name', t'.sortName? = some name' ∧ name'.quote = name.quote ∧ P name.name name'.name := by
  unfold SyntaxTree.sortName? at hname
  split at hname
  · next ascending nullsFirst own parts rest =>
    obtain rfl := Option.some.inj hname
    -- the item is a clause, and its first part is a column with the same qualifiers
    obtain ⟨parts', hparts, rfl⟩ := (clausewise_respells P _ _ _).1 h
    obtain ⟨column, rest', hcolumn, -, rfl⟩ := List.forall₂_cons_left_iff.1 hparts
    obtain ⟨form', _, rfl, hform, -⟩ := respells_node.1 hcolumn
    rcases hform.cases with ⟨-, hno⟩ | ⟨qualifier, _, name', heq, rfl, hquote, hrelated⟩
    · exact absurd rfl (hno _ _)
    · cases heq
      exact ⟨name', rfl, hquote, hrelated⟩
  · cases hname

end Sql

namespace Physical

variable {s : Schema} {made : Option SynthesizedMetric} {t : LogicalTable} {q physical : Query}
  {warnings : List Warning}

/-- The planner leaves the output names of a query as they are. -/
theorem outputNames_of_ofQuery (h : ofQuery s made t q = .ok (physical, warnings)) :
    physical.outputNames = q.outputNames := by
  have hattached := attachSource_of_ofQuery h
  rw [renameColumns_fieldNames] at hattached
  -- attaching the derived table keeps the items, and renaming keeps their labels
  have hitems := items_of_attachSource hattached
  have haliases : physical.select?.map Select.aliases
      = (q.mapNodes (scopeOf s made q).emitColumn).select?.map Select.aliases := by
    have hlabels := congrArg (Option.map fun items : List SyntaxTree =>
      (items.filterMap Select.itemAlias?).map Ident.name) hitems
    rw [Option.map_map, Option.map_map] at hlabels
    exact hlabels
  rw [Query.outputNames, Query.outputNames, haliases]
  rcases ((scopeOf s made q).query_respells_emitColumn q).select? with
    ⟨hs, hs'⟩ | ⟨select, select', hs, hs', hrelated⟩
  · rw [hs, hs']
  · rw [hs, hs', Option.map_some, Option.map_some, hrelated.aliases_eq]

/-- The planner writes each column that a query sorts by under the name of what it stands for. -/
theorem sortName?_of_ofQuery (h : ofQuery s made t q = .ok (physical, warnings)) {i : Nat}
    {name : Ident} (hname : q.sortName? i = some name) :
    ∃ name', physical.sortName? i = some name' ∧ name'.quote = name.quote
      ∧ name'.name = (scopeOf s made q).emittedName name.name := by
  have hattached := attachSource_of_ofQuery h
  rw [renameColumns_fieldNames] at hattached
  obtain ⟨item, hitem, hsort⟩ := Option.bind_eq_some_iff.1 hname
  have hrelated := ((scopeOf s made q).query_respells_emitColumn q).related.orderBy.parts
  obtain ⟨item', hitem', hrespells⟩ := SyntaxTree.exists_getElem?_of_forall₂ hrelated hitem
  obtain ⟨name', hsort', hquote, hemitted⟩ := SyntaxTree.exists_sortName?_of_respells hrespells hsort
  refine ⟨name', ?_, hquote, hemitted⟩
  rw [Query.sortName?, orderBy_of_attachSource hattached, hitem']
  exact hsort'

/-- How the planner writes an item of an `ORDER BY` clause that sorts by an output name of the
query. It is still a column without qualifiers, in the same quote marks. Its name is the technical
name of the element that the output name finds, or the same as before if there is none; so it still
names the output exactly if no element is found, or if the technical name of the element is that
name too. The output names themselves stay. -/
theorem sort_name_of_ofRequest {request : LogicalRequest} {p : Physical}
    (h : ofRequest request s made = .ok p) :
    ∃ (t : LogicalTable) (q physical : Query) (warnings : List Warning),
      Query.parse request.sql = .ok q ∧ ofQuery s made t q = .ok (physical, warnings)
      ∧ p.sql = physical.render ∧ physical.outputNames = q.outputNames
      ∧ ∀ i name output, q.sortName? i = some name → output ∈ q.outputNames →
        sameName output name.name = true →
        ∃ name', physical.sortName? i = some name' ∧ name'.quote = name.quote
          ∧ name'.name = ((s.find? output).map (·.element.technicalName)).getD name.name
          ∧ (name' = name ↔ ∀ d, s.find? output = some d → d.element.technicalName = name.name)
          ∧ (sameName output name'.name = true
            ↔ ∀ d, s.find? output = some d → sameName output d.element.technicalName = true) := by
  obtain ⟨t, rest, q, physical, warnings, -, hread, hquery, rfl⟩ := ofRequest_eq_ok h
  refine ⟨t, q, physical, warnings, hread, hquery, rfl, outputNames_of_ofQuery hquery, ?_⟩
  intro i name output hname houtput hsame
  obtain ⟨name', hname', hquote, hemitted⟩ := sortName?_of_ofQuery hquery hname
  -- the item and the output name differ in letter case at most, so they find the same
  have hfind : s.find? name.name = s.find? output := by
    rw [sameName, beq_iff_eq] at hsame
    exact s.find?_congr hsame.symm
  rw [Scope.emittedName, Scope.element?_resolve, Option.map_map] at hemitted
  have hwritten : name'.name = ((s.find? output).map (·.element.technicalName)).getD name.name := by
    rw [hemitted, ← hfind]
    rfl
  have hident : name' = name ↔ name'.name = name.name := by
    refine ⟨fun heq => by rw [heq], fun heq => ?_⟩
    obtain ⟨own, quote⟩ := name
    obtain ⟨own', quote'⟩ := name'
    simp only at hquote heq
    rw [hquote, heq]
  refine ⟨name', hname', hquote, hwritten, ?_, ?_⟩
  · rw [hident, hwritten]
    cases s.find? output with
    | none => simp
    | some d => simp
  · rw [hwritten]
    cases s.find? output with
    | none => simp [hsame]
    | some d => simp

/-- A model with a dimension of the name that a request gives to its output. -/
def shadowedSchema : Schema :=
  ((Schema.ofNames 1 "t" "t" "dw.t").withDimension (.named "total" "total_amt")).withDimension
    (.named "city" "city_name")

def shadowedRequest : LogicalRequest :=
  ⟨1, "select city as total from t order by total", [], none, [⟨"t", [], ["city"]⟩]⟩

def shadowedAnswer : Physical where
  sql := "SELECT city_name AS total FROM (SELECT city_name FROM dw.t) AS t ORDER BY total_amt"
  hasAggregation := false
  warnings := []

theorem ofRequest_shadowed : ofRequest shadowedRequest shadowedSchema none = .ok shadowedAnswer := by
  decide +kernel

theorem sort_name_of_ofRequest_shadowed :
    ∃ (t : LogicalTable) (q physical : Query) (warnings : List Warning),
      Query.parse shadowedRequest.sql = .ok q
      ∧ ofQuery shadowedSchema none t q = .ok (physical, warnings)
      ∧ shadowedAnswer.sql = physical.render ∧ physical.outputNames = q.outputNames
      ∧ ∀ i name output, q.sortName? i = some name → output ∈ q.outputNames →
        sameName output name.name = true →
        ∃ name', physical.sortName? i = some name' ∧ name'.quote = name.quote
          ∧ name'.name = ((shadowedSchema.find? output).map (·.element.technicalName)).getD name.name
          ∧ (name' = name ↔ ∀ d, shadowedSchema.find? output = some d →
            d.element.technicalName = name.name)
          ∧ (sameName output name'.name = true ↔ ∀ d, shadowedSchema.find? output = some d →
            sameName output d.element.technicalName = true) :=
  sort_name_of_ofRequest ofRequest_shadowed

/-- The output that the request sorts by is `total`, but the planner writes the name of a column of
the dimension `total`, and no output has that name. -/
theorem sort_name_not_kept :
    (Query.parse shadowedRequest.sql).toOption.map (fun q => (q.outputNames, q.sortName? 0))
        = some (["total"], some (.plain "total"))
      ∧ ofRequest shadowedRequest shadowedSchema none = .ok shadowedAnswer
      ∧ (Query.parse shadowedAnswer.sql).toOption.map (fun q => (q.outputNames, q.sortName? 0))
        = some (["total"], some (.plain "total_amt")) := by
  obtain ⟨hrequest, hanswer⟩ :
      (Query.parse shadowedRequest.sql).toOption.map (fun q => (q.outputNames, q.sortName? 0))
          = some (["total"], some (.plain "total"))
        ∧ (Query.parse shadowedAnswer.sql).toOption.map (fun q => (q.outputNames, q.sortName? 0))
          = some (["total"], some (.plain "total_amt")) := by
    decide +kernel
  exact ⟨hrequest, ofRequest_shadowed, hanswer⟩

end Physical

end MetricQuery
