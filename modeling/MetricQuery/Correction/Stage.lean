import MetricQuery.Correction.AppendedColumns
import MetricQuery.Correction.Draft
import MetricQuery.Correction.RowLimit
import MetricQuery.Engine.Wording

/-!
# Stages — the single corrections of a draft

A stage edits a draft, knowing the engine that the query is for. It tells whether it has changed
anything, or why it cannot do its work; a stage that fails may leave a half-edited draft behind.
-/

namespace MetricQuery.Correction

open MetricQuery.Sql

/-- What a stage has done. -/
inductive Outcome where
  | applied | unchanged
  deriving DecidableEq, Repr

/-- A correction under the name that warnings give it. -/
structure Stage where
  name : String
  run : Option Engine → Draft → Draft × Except ParseError Outcome

namespace Stage

/-- The draft written out, and whether that changed its text. -/
def committed (d : Draft) : Draft × Except ParseError Outcome :=
  (d.commit, .ok (if d.isDirty then .applied else .unchanged))

/-- A stage's work on the query of the draft; a draft that cannot be read is left as it is. -/
def onQuery (d : Draft) (work : Query → Draft × Except ParseError Outcome) :
    Draft × Except ParseError Outcome :=
  match d.read with
  | .ok q => work q
  | .error err => (d, .error err)

/-- Applies an edit that may find nothing to do. -/
def edit (change? : Query → Option Query) (d : Draft) : Draft × Except ParseError Outcome :=
  onQuery d fun q =>
    match change? q with
    | some q' => ((d.withQuery q').commit, .ok .applied)
    | none => (d.withQuery q, .ok .unchanged)

/-- Appends the columns that the query filters and sorts by. -/
def appendColumns : Stage where
  name := "select_field_append"
  run _ := edit appendColumns?

/-- Writes the query in its canonical form, with keywords in capitals. -/
def keywordCase : Stage where
  name := "keyword_case"
  run _ d := onQuery d fun q => committed (d.withQuery q)

/-- Keeps the number of rows below a ceiling. -/
def rowLimit (ceiling : Nat) : Stage where
  name := "limit"
  run _ := edit (limitRows? ceiling)

/-- Writes calls in the words of the engine; without an engine there is nothing to do. -/
def functionNames : Stage where
  name := "function_name"
  run
    | none, d => (d, .ok .unchanged)
    | some engine, d => onQuery d fun q =>
      match engine.rewordFar q with
      | (q', none) => committed (d.withQuery q')
      | (q', some err) => (d.withQuery q', .error err)

end Stage

end MetricQuery.Correction
