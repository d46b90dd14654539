import MetricQuery.Sql.Query
import MetricQuery.Text.Distinct
import MetricQuery.Text.Natural

/-!
# Columns — what a query refers to

A column is an expression of the form `column`; what counts is the last part of its name. Lists of
columns keep the first reference to each name, letter case aside, in reading order. The columns of
a clause that belong to the query itself are those in no query nested in the clause.
-/

namespace MetricQuery.Sql

open MetricQuery.Text

/-- The last part of the name, if the expression is a column. -/
def SyntaxTree.columnName? : SyntaxTree → Option Ident
  | .node (.expr (.column _ name)) _ => some name
  | _ => none

/-- The columns of the tree, each by its first reference. -/
def SyntaxTree.columnNames (t : SyntaxTree) : List Ident :=
  distinctBy Ident.name (t.nodes.filterMap columnName?)

/-- The expressions of the tree that refer to a column and lie in no nested query, the first for
each name, with their qualifiers. -/
def SyntaxTree.outerColumns (t : SyntaxTree) : List SyntaxTree :=
  distinctBy (fun c => (c.columnName?.map Ident.name).getD "")
    (t.outerNodes.filter fun c => c.columnName?.isSome)

/-- The name of the function in lower case, if the expression is a call. -/
def SyntaxTree.functionName? : SyntaxTree → Option String
  | .node (.expr (.call name _ _)) _ => some (lower (renderPath name))
  | _ => none

/-- The functions that make a query an aggregating one. -/
def aggregateFunctions : List String :=
  ["sum", "count", "avg", "max", "min"]

/-- Whether the expression calls an aggregate function. -/
def SyntaxTree.isAggregateCall (t : SyntaxTree) : Bool :=
  match t.functionName? with
  | some name => aggregateFunctions.contains name
  | none => false

namespace Select

/-- The alias of an item of a `SELECT` list. -/
def itemAlias? : SyntaxTree → Option Ident
  | .node (.clause (.aliased label)) _ => some label
  | _ => none

/-- Whether an item of a `SELECT` list stands for all columns. -/
def isWildcard : SyntaxTree → Bool
  | .node (.clause (.wildcard _ _)) _ => true
  | _ => false

/-- The output names that the `SELECT` list declares. -/
def aliases (s : Select) : List String :=
  (s.items.filterMap itemAlias?).map Ident.name

/-- The columns that the `SELECT` list refers to, then the output names that it declares. -/
def fields (s : Select) : List String :=
  s.projection.columnNames.map Ident.name ++ s.aliases

/-- The columns of the `WHERE` clause itself. -/
def conditionColumns (s : Select) : List SyntaxTree :=
  s.condition.outerColumns

/-- Whether the `SELECT` list asks for all columns. -/
def hasWildcard (s : Select) : Bool :=
  s.items.any isWildcard

/-- Whether the `SELECT` list calls an aggregate function, nested queries included. -/
def callsAggregate (s : Select) : Bool :=
  s.projection.nodes.any SyntaxTree.isAggregateCall

/-- Whether the `GROUP BY` clause holds an expression. -/
def isGrouped (s : Select) : Bool :=
  s.grouping.nodes.any SyntaxTree.isExpr

/-- Whether rows are summed up: by an aggregate call or by grouping. -/
def aggregates (s : Select) : Bool :=
  s.callsAggregate || s.isGrouped

end Select

namespace Query

/-- The names of all columns that the query refers to. -/
def fields (q : Query) : List String :=
  q.toTree.columnNames.map Ident.name

/-- The columns of the `ORDER BY` clause itself. -/
def orderColumns (q : Query) : List SyntaxTree :=
  q.orderBy.outerColumns

/-- Whether the query is a `SELECT` that aggregates. -/
def aggregates (q : Query) : Bool :=
  match q.select? with
  | some s => s.aggregates
  | none => false

/-- The number that an expression is, if it is an integer literal that fits a machine word. -/
def literalCount? : SyntaxTree → Option Nat
  | .node (.expr (.literal (.number text _))) _ => readWord? text
  | _ => none

/-- The number of rows that the query is limited to, if it is written as a number. -/
def limitCount? (q : Query) : Option Nat :=
  q.limitExpr?.bind literalCount?

end Query

end MetricQuery.Sql
