import MetricQuery.Engine.Basic
import MetricQuery.Sql.Columns

/-!
# Date differences — the common call `datediff('unit', start, end)`

The call takes a unit as a text and two dates. An engine that counts in days only has a formula of
its own for each unit; the others take the call as it is.
-/

namespace MetricQuery

open MetricQuery.Text MetricQuery.Sql

/-- The unit that a date difference is counted in. -/
inductive DateUnit where
  | day | week | month | year
  deriving DecidableEq, Repr

namespace DateUnit

/-- The name of the unit. -/
def name : DateUnit → String
  | day => "day"
  | week => "week"
  | month => "month"
  | year => "year"

/-- The unit that a text names, in the singular or the plural and in any letter case. -/
def parse? (text : String) : Option DateUnit :=
  match lower (trim text) with
  | "day" | "days" => some day
  | "week" | "weeks" => some week
  | "month" | "months" => some month
  | "year" | "years" => some year
  | _ => none

end DateUnit

/-- A date difference: from one date to another, in whole units. -/
structure DateDifference where
  unit : DateUnit
  start : SyntaxTree
  stop : SyntaxTree

namespace DateDifference

/-- The arguments of a call in order, if there are arguments in parentheses and each is an
expression without a name. -/
def plainArguments? : SyntaxTree → Option (List SyntaxTree)
  | .node (.expr (.call _ _ _)) (_ :: .node (.clause (.arguments _)) parts :: _) =>
    let arguments := parts.filter fun p => !isArgumentClause p.form
    if arguments.all SyntaxTree.isExpr then some arguments else none
  | _ => none

/-- The date difference that an expression is, if it is one. -/
def ofTree? (t : SyntaxTree) : Option DateDifference :=
  if t.functionName? = some "datediff" then
    match plainArguments? t with
    | some [.node (.expr (.literal (.text .single unit))) [], start, stop] =>
      (DateUnit.parse? unit).map (⟨·, start, stop⟩)
    | _ => none
  else none

end DateDifference

/-- The engine's own formula for a date difference between two dates given as texts. None if the
engine has the call itself. -/
def Engine.dateFormula? (e : Engine) (unit : DateUnit) (start stop : String) : Option String :=
  match e, unit with
  | .mysql, .day => some ("DATEDIFF(" ++ stop ++ ", " ++ start ++ ")")
  | .mysql, .week => some ("FLOOR(DATEDIFF(" ++ stop ++ ", " ++ start ++ ") / 7)")
  | .mysql, .month =>
    some ("PERIOD_DIFF(DATE_FORMAT(" ++ stop ++ ", '%Y%m'), DATE_FORMAT(" ++ start ++ ", '%Y%m'))")
  | .mysql, .year => some ("(YEAR(" ++ stop ++ ") - YEAR(" ++ start ++ "))")
  | .clickhouse, _ => none
  | .h2, _ => none

end MetricQuery
