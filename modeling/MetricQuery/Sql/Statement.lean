import MetricQuery.Sql.Grammar.Statement
import MetricQuery.Sql.Token.Lexer

/-!
# Reading queries — a query or an expression from its text
-/

namespace MetricQuery.Sql

/-- Why a text is no query. -/
inductive ParseError where
  /-- The text cannot be read. -/
  | unreadable
  /-- The text holds another number of statements than one. -/
  | statementCount (n : Nat)
  /-- The one statement of the text is no query. -/
  | notAQuery
  deriving DecidableEq

/-- The wording of the error. -/
def ParseError.message : ParseError → String
  | .unreadable => "SQL syntax error"
  | .statementCount n =>
    "Expected a single SELECT statement, found " ++ toString n ++ " statements"
  | .notAQuery => "Expected a single SELECT statement, found a non-query statement"

/-- Reads a construct off the front of a text. -/
def readFront? {α : Type} (p : Grammar.Parser α) (text : String) : Option α :=
  match Token.scan? text with
  | none => none
  | some tokens =>
    match p tokens with
    | .ok (a, _) => some a
    | .error _ => none

/-- The statements of a text. -/
def readStatements? (text : String) : Option (List Grammar.Statement) :=
  readFront? Grammar.statements text

/-- The one query that a text holds. -/
def Query.parse (text : String) : Except ParseError Query :=
  match readStatements? text with
  | none => .error .unreadable
  | some [.query q] => .ok q
  | some [_] => .error .notAQuery
  | some statements => .error (.statementCount statements.length)

/-- The expression at the front of a text; what follows it is left aside. -/
def SyntaxTree.parseExpr (text : String) : Except ParseError SyntaxTree :=
  match readFront? (Grammar.nested Grammar.maxDepth false).whole text with
  | some e => .ok e
  | none => .error .unreadable

end MetricQuery.Sql
