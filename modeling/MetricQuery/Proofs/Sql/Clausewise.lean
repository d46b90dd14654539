import MetricQuery.Proofs.Sql.Tree
import MetricQuery.Sql.Columns

/-!
# Clausewise relations — trees that have the same clauses

Whatever is done to the expressions of a query, its clauses stay where they are. A relation of trees
is clausewise if what it relates to a clause is a clause of the same form, part by part. Queries and
`SELECT`s that are so related are related clause by clause.
-/

namespace MetricQuery.Sql

open SyntaxTree

theorem Select.toTree_of_ofTree? {t : SyntaxTree} {s : Select} (h : ofTree? t = some s) :
    s.toTree = t := by
  unfold ofTree? at h
  split at h
  · cases h
    rfl
  · cases h

/-- A number is in the form of an expression. -/
theorem Query.literalCount?_of_form {t t' : SyntaxTree} (h : t'.form = t.form) :
    literalCount? t' = literalCount? t := by
  obtain ⟨form, parts⟩ := t
  obtain ⟨form', parts'⟩ := t'
  obtain rfl : form' = form := h
  unfold literalCount?
  split
  · next heq => rw [(node.inj heq).1]
  · next hno =>
    split
    · next heq => exact absurd (congrArg (SyntaxTree.node · parts') (node.inj heq).1) (hno _ _ _)
    · rfl

/-- Whether a relation goes through clauses to their parts. -/
def Clausewise (R : SyntaxTree → SyntaxTree → Prop) : Prop :=
  ∀ form parts t', R (.clause form parts) t'
    ↔ ∃ parts', List.Forall₂ R parts parts' ∧ t' = .clause form parts'

/-- Queries whose clauses are related one by one. -/
structure Query.Related (R : SyntaxTree → SyntaxTree → Prop) (q q' : Query) : Prop where
  commonTables : R q.commonTables q'.commonTables
  body : R q.body q'.body
  orderBy : R q.orderBy q'.orderBy
  limit : R q.limit q'.limit
  limitBy : R q.limitBy q'.limitBy
  offset : R q.offset q'.offset
  fetch : R q.fetch q'.fetch
  options : q'.options = q.options

/-- `SELECT`s of which the clauses that the compiler looks into are related one by one. -/
structure Select.Related (R : SyntaxTree → SyntaxTree → Prop) (s s' : Select) : Prop where
  items : List.Forall₂ R s.items s'.items
  sources : R s.sources s'.sources
  condition : R s.condition s'.condition
  grouping : R s.grouping s'.grouping

namespace Clausewise

variable {R : SyntaxTree → SyntaxTree → Prop} (hR : Clausewise R) {q q' : Query} {s : Select}

include hR

theorem query (h : R q.toTree q'.toTree) : q.Related R q' := by
  obtain ⟨parts', hparts, heq⟩ := (hR _ _ _).1 h
  obtain ⟨hform, rfl⟩ := node.inj heq
  have hoptions := ClauseForm.query.inj (Form.clause.inj hform)
  obtain _ | ⟨htables, _ | ⟨hbody, _ | ⟨horder, _ | ⟨hlimit, _ | ⟨hlimitBy, _ | ⟨hoffset,
    _ | ⟨hfetch, -⟩⟩⟩⟩⟩⟩⟩ := hparts
  exact ⟨htables, hbody, horder, hlimit, hlimitBy, hoffset, hfetch, hoptions⟩

theorem select {t' : SyntaxTree} (h : R s.toTree t') :
    ∃ s' : Select, t' = s'.toTree ∧ s.Related R s' := by
  obtain ⟨parts', hparts, rfl⟩ := (hR _ _ _).1 h
  -- one case for each of the clauses of a `SELECT`
  obtain _ | ⟨-, _ | ⟨-, _ | ⟨hprojection, _ | ⟨hsources, _ | ⟨-, _ | ⟨-, _ | ⟨hcondition,
    _ | ⟨hgrouping, _ | ⟨-, _ | ⟨-, _ | ⟨-, _ | ⟨-, _ | ⟨-, _ | ⟨-, _ | ⟨-, _ | _⟩⟩⟩⟩⟩⟩⟩⟩⟩⟩⟩⟩⟩⟩⟩
    := hparts
  obtain ⟨items, hitems, rfl⟩ := (hR _ _ _).1 hprojection
  exact ⟨⟨_, _, items, _, _, _, _, _, _, _, _, _, _, _, _, _, _⟩, rfl, hitems, hsources, hcondition,
    hgrouping⟩

/-- A query with a `SELECT` for its body is related to one with a `SELECT` for its body. -/
theorem exists_select? (h : R q.toTree q'.toTree) (hs : q.select? = some s) :
    ∃ s', q'.select? = some s' ∧ s.Related R s' := by
  have hbody := (hR.query h).body
  rw [← Select.toTree_of_ofTree? hs] at hbody
  obtain ⟨s', heq, hrelated⟩ := hR.select hbody
  exact ⟨s', by rw [Query.select?, heq, Select.ofTree?_toTree], hrelated⟩

/-- What stands behind `LIMIT` is related, unless both queries lack it. -/
theorem limitExpr? (hclause : ∀ t form parts', R t (.clause form parts') → t.form = .clause form)
    (h : R q.toTree q'.toTree) : Option.Rel R q.limitExpr? q'.limitExpr? := by
  have hlimit := (hR.query h).limit
  unfold Query.limitExpr?
  generalize q.limit = own, q'.limit = own' at hlimit
  split
  · next count =>
    -- the clause has its one part still
    obtain ⟨parts', hparts, rfl⟩ := (hR _ _ _).1 hlimit
    obtain ⟨count', _, hcount, hrest, rfl⟩ := List.forall₂_cons_left_iff.1 hparts
    obtain rfl := List.forall₂_nil_left_iff.1 hrest
    exact .some hcount
  · next hno =>
    split
    · next count' =>
      -- and it had no other one before
      obtain ⟨form, parts⟩ := own
      obtain rfl : form = .clause .limit := hclause _ _ _ hlimit
      obtain ⟨_, hparts, hsame⟩ := (hR _ _ _).1 hlimit
      obtain rfl := (node.inj hsame).2
      obtain ⟨count, _, -, hrest, rfl⟩ := List.forall₂_cons_right_iff.1 hparts
      obtain rfl := List.forall₂_nil_right_iff.1 hrest
      exact absurd rfl (hno count)
    · exact .none

/-- A query is limited to the number that it was limited to, if numbers stay and nothing becomes
one. -/
theorem limitCount?_eq (hclause : ∀ t form parts', R t (.clause form parts') → t.form = .clause form)
    (hcount : ∀ t t', R t t' → Query.literalCount? t' = Query.literalCount? t)
    (h : R q.toTree q'.toTree) : q'.limitCount? = q.limitCount? := by
  have hlimit := hR.limitExpr? hclause h
  unfold Query.limitCount?
  generalize q.limitExpr? = own, q'.limitExpr? = own' at hlimit
  cases hlimit with
  | none => rfl
  | some hown => exact hcount _ _ hown

end Clausewise

end MetricQuery.Sql
