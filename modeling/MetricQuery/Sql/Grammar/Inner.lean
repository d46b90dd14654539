import MetricQuery.Sql.Grammar.Parser
import MetricQuery.Sql.SyntaxTree

/-!
# Nesting — the parsers for what lies one level deeper

Expressions and queries stand inside one another. Every parser of a construct that holds some takes
the parsers for them (`Inner`), so none of them calls itself through a nested expression or query.
-/

namespace MetricQuery.Sql.Grammar

/-- The parsers for what is nested one level deeper. -/
structure Inner where
  /-- Whether the construct links a row to the one above it, so that `PRIOR` has a meaning. -/
  linksRows : Bool
  /-- An expression whose operators bind more tightly than the given precedence. -/
  exprLinking : (linksRows : Bool) → (precedence : Nat) → Parser SyntaxTree
  queryLinking : (linksRows : Bool) → Parser SyntaxTree

namespace Inner

/-- An expression whose operators bind more tightly than the given precedence. -/
def expr (inner : Inner) (precedence : Nat) : Parser SyntaxTree :=
  inner.exprLinking inner.linksRows precedence

/-- An expression in a place of its own. -/
def whole (inner : Inner) : Parser SyntaxTree :=
  inner.expr 0

/-- Expressions parted by commas. -/
def list (inner : Inner) : Parser (List SyntaxTree) :=
  commaList inner.whole

/-- Expressions parted by commas up to a symbol, or none in front of it. -/
def listBefore (inner : Inner) (s : Symbol) : Parser (List SyntaxTree) := do
  if ← atSymbol s then return [] else inner.list

/-- A query. -/
def query (inner : Inner) : Parser SyntaxTree :=
  inner.queryLinking inner.linksRows

/-- The parsers for a construct that links rows. -/
def linking (inner : Inner) : Inner :=
  { inner with linksRows := true }

end Inner

end MetricQuery.Sql.Grammar
