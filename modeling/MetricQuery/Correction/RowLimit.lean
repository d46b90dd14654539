import MetricQuery.Sql.Columns

/-!
# Row limit — a ceiling on the rows of a query

A query may ask for fewer rows than the ceiling. One that asks for more, that says so by something
else than a number, or that does not say it, is limited to the ceiling.
-/

namespace MetricQuery.Correction

open MetricQuery.Sql

/-- The ceiling unless another one is configured. -/
def defaultCeiling : Nat := 1000

/-- A `LIMIT` clause with a number. -/
def limitClause (n : Nat) : SyntaxTree :=
  .clause .limit [.expr (.literal (.number (toString n) false)) []]

/-- Whether the query asks for at most `ceiling` rows. -/
def withinCeiling (ceiling : Nat) (q : Query) : Bool :=
  match q.limitCount? with
  | some n => n ≤ ceiling
  | none => false

/-- The query with the ceiling as its limit, unless it keeps to the ceiling already. -/
def limitRows? (ceiling : Nat) (q : Query) : Option Query :=
  if withinCeiling ceiling q then none else some { q with limit := limitClause ceiling }

end MetricQuery.Correction
