import MetricQuery.Text.CharClass

/-!
# Templates — texts with the values of variables in them

A variable is written `$name`, where the name runs as far as letters, numerals and underscores go,
or between a dollar sign with an opening brace and the next closing brace. A dollar sign without a
name behind it stands for itself. Values are put in as they are and not looked at again.
-/

namespace MetricQuery.Template

open MetricQuery.Text

/-- A piece of a template. -/
inductive Piece where
  | char (c : Char)
  | variable (name : String)
  deriving DecidableEq, Repr

/-- A character of a variable's name. -/
def isNameChar (c : Char) : Bool :=
  isAlphanumeric c || c = '_'

/-- The pieces of a template. -/
def pieces : List Char → List Piece
  | [] => []
  | '$' :: '{' :: rest =>
    .variable (String.ofList (rest.takeWhile (· ≠ '}')))
      :: pieces ((rest.dropWhile (· ≠ '}')).drop 1)
  | '$' :: rest =>
    let name := rest.takeWhile isNameChar
    if name.isEmpty then .char '$' :: pieces rest
    else .variable (String.ofList name) :: pieces (rest.dropWhile isNameChar)
  | c :: rest => .char c :: pieces rest
termination_by cs => cs.length
decreasing_by
  all_goals simp only [List.length_cons, List.length_drop]
  · have := (List.dropWhile_sublist (fun c : Char => decide (c ≠ '}')) (l := rest)).length_le
    omega
  · omega
  · have := (List.dropWhile_sublist isNameChar (l := rest)).length_le
    omega
  · omega

/-- The names of the variables of a template, in order. -/
def variableNames (template : String) : List String :=
  (pieces template.toList).filterMap fun
    | .variable name => some name
    | .char _ => none

/-- A variable that has no value. -/
structure MissingVariable where
  name : String
  deriving DecidableEq, Repr

/-- The wording of the error. -/
def MissingVariable.message (m : MissingVariable) : String :=
  "Missing environment variable: " ++ m.name

/-- What a piece stands for. -/
def Piece.expand (value? : String → Option String) : Piece → Except MissingVariable String
  | .char c => .ok c.toString
  | .variable name =>
    match value? name with
    | some value => .ok value
    | none => .error ⟨name⟩

/-- The text of a template with the given values; the first variable without one is an error. -/
def expand (value? : String → Option String) (template : String) :
    Except MissingVariable String := do
  return String.join (← (pieces template.toList).mapM (Piece.expand value?))

end MetricQuery.Template
