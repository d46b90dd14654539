import MetricQuery.Sql.Query

/-!
# Calls — renaming the functions that a query calls

A renaming is asked once for each call, innermost calls first, by the name as it is written, and
answers with another name or with none. It may keep a record of what it is asked: a state goes from
call to call.
-/

namespace MetricQuery.Sql

namespace SyntaxTree

/-- The name of the function as it is written, if the expression is a call. -/
def callName? : SyntaxTree → Option String
  | .node (.expr (.call name _ _)) _ => some (renderPath name)
  | _ => none

/-- The call under another name; any other node as it is. -/
def withCallName (name : String) : SyntaxTree → SyntaxTree
  | .node (.expr (.call _ nulls braces)) parts => .expr (.call [.plain name] nulls braces) parts
  | t => t

/-- The call under the name that `rename` gives it, if that is another one than it has. -/
def renameCall? (rename : String → Option String) (t : SyntaxTree) : Option SyntaxTree :=
  match t.callName? with
  | none => none
  | some current =>
    match rename current with
    | none => none
    | some name => if name = current then none else some (t.withCallName name)

/-- The call under its new name, and what `rename` keeps in mind. -/
def renameCallWith {σ : Type} (rename : σ → String → Option String × σ) (s : σ) (t : SyntaxTree) :
    SyntaxTree × σ :=
  match t.callName? with
  | none => (t, s)
  | some current =>
    let (answer, s') := rename s current
    ((t.renameCall? fun _ => answer).getD t, s')

end SyntaxTree

/-- The query with its calls renamed. -/
def Query.renameCallsWith {σ : Type} (rename : σ → String → Option String × σ) (s : σ)
    (q : Query) : Query × σ :=
  q.mapNodesWith (SyntaxTree.renameCallWith rename) s

/-- A renaming that records the names it is asked for. -/
def recorded (rename : String → Option String) (asked : List String) (name : String) :
    Option String × List String :=
  (rename name, asked ++ [name])

/-- The query with its calls renamed, and the names that were asked for, in order. -/
def Query.renameCalls (rename : String → Option String) (q : Query) : Query × List String :=
  q.renameCallsWith (recorded rename) []

end MetricQuery.Sql
