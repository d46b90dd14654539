import MetricQuery.Text.CharClass
import MetricQuery.Text.LetterCase

/-!
# Engines — the database engines that queries are written for

Queries use one vocabulary of functions for all engines. An engine is named by a text in any letter
case of its ASCII letters, and has its own names for some functions of the vocabulary.
-/

namespace MetricQuery

open MetricQuery.Text

/-- A database engine. -/
inductive Engine where
  | mysql | clickhouse | h2
  deriving DecidableEq, Repr

namespace Engine

/-- All engines. -/
def all : List Engine :=
  [mysql, clickhouse, h2]

/-- The name of the engine. -/
def name : Engine → String
  | mysql => "mysql"
  | clickhouse => "clickhouse"
  | h2 => "h2"

/-- A text that names no engine. -/
structure Unsupported where
  given : String
  deriving DecidableEq

/-- The wording of the error. -/
def Unsupported.message (u : Unsupported) : String :=
  "Unsupported engine type: " ++ u.given

/-- The engine that a text names; blanks around the name do not count. -/
def parse (text : String) : Except Unsupported Engine :=
  match all.find? fun e => sameIgnoringAsciiCase e.name (trim text) with
  | some e => .ok e
  | none => .error ⟨text⟩

/-- The engine's own name for a function of the common vocabulary, if it has one. The function is
given in any letter case. -/
def functionName? (e : Engine) (function : String) : Option String :=
  match e, upper function with
  | mysql, "YEAR" => some "YEAR"
  | mysql, "MONTH" => some "MONTH"
  | mysql, "DAY" => some "DAY"
  | clickhouse, "DATEDIFF" => some "dateDiff"
  | clickhouse, "YEAR" => some "toYear"
  | clickhouse, "MONTH" => some "toMonth"
  | clickhouse, "DAY" => some "toDayOfMonth"
  | h2, "YEAR" => some "YEAR"
  | h2, "MONTH" => some "MONTH"
  | h2, "DAY" => some "DAY_OF_MONTH"
  | _, _ => none

theorem mem_all (e : Engine) : e ∈ all := by
  cases e <;> decide

example : (parse " MySQL ").toOption = some mysql := by decide
example : functionName? clickhouse "Month" = some "toMonth" := by decide

end Engine

end MetricQuery
