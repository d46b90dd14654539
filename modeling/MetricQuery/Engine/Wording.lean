import MetricQuery.Engine.DateDifference
import MetricQuery.Sql.Calls
import MetricQuery.Sql.Statement

/-!
# Wording — a query in the words of an engine

Calls are reworded from the inside out. A date difference gives way to the engine's formula over
its reworded dates, which is read anew from its text; any other call takes the engine's name for
the function. A formula that cannot be read ends the work, and what comes after it is left as it is.
-/

namespace MetricQuery.Engine

open MetricQuery.Sql

/-- The text of the engine's formula, if the expression is a date difference that the engine has a
formula for. -/
def formulaText? (e : Engine) (t : SyntaxTree) : Option String := do
  let d ← DateDifference.ofTree? t
  e.dateFormula? d.unit d.start.render d.stop.render

/-- One expression in the words of the engine, its parts being reworded already. -/
def rewordNode (e : Engine) (t : SyntaxTree) : Except ParseError SyntaxTree :=
  match e.formulaText? t with
  | some text => SyntaxTree.parseExpr text
  | none => .ok ((t.renameCall? e.functionName?).getD t)

/-- One step of the work: nothing is reworded any more once there is an error. -/
def rewordStep (e : Engine) (failed : Option ParseError) (t : SyntaxTree) :
    SyntaxTree × Option ParseError :=
  match failed with
  | some err => (t, some err)
  | none =>
    match e.rewordNode t with
    | .ok t' => (t', none)
    | .error err => (t, some err)

/-- The query as far as it can be reworded, and the error that ended the work. -/
def rewordFar (e : Engine) (q : Query) : Query × Option ParseError :=
  q.mapNodesWith e.rewordStep none

/-- The query in the words of the engine. -/
def reword (e : Engine) (q : Query) : Except ParseError Query :=
  match e.rewordFar q with
  | (q', none) => .ok q'
  | (_, some err) => .error err

/-- The text of a query in the words of the engine; a text that cannot be read or reworded stays
as it is. -/
def rewordText (e : Engine) (text : String) : String :=
  match Query.parse text with
  | .error _ => text
  | .ok q =>
    match e.reword q with
    | .ok q' => q'.render
    | .error _ => text

end MetricQuery.Engine
