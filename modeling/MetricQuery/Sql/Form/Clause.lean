import MetricQuery.Sql.Form.Expr

/-!
# Forms of clauses — the parts of a query that are no expressions

A clause is everything in a query that is no expression: the query itself, its body, its tables,
the arguments of a call, and the `INSERT` or `UPDATE` that may stand in the place of a body. The
doc comment of a form says which parts it has where their number is fixed.
-/

namespace MetricQuery.Sql

/-! ## Parts of queries -/

/-- How two tables are joined. -/
inductive JoinKind where
  | inner | left | right | full | cross | semi | anti | leftSemi | rightSemi | leftAnti | rightAnti
  | crossApply | outerApply | asof
  deriving DecidableEq

/-- An operator between two query bodies. -/
inductive SetOperator where
  | union | except | intersect
  deriving DecidableEq

/-- What a set operator does with duplicate rows, and how it pairs the columns. -/
inductive SetQuantifier where
  | all | distinct | byName | allByName | distinctByName | default
  deriving DecidableEq

/-- The unit of a window frame. -/
inductive FrameUnit where
  | rows | range | groups
  deriving DecidableEq

/-- Which way a window frame runs from the current row. -/
inductive FrameSide where
  | preceding | following
  deriving DecidableEq

/-- The word behind the number of an `OFFSET`. -/
inductive OffsetUnit where
  | none | row | rows
  deriving DecidableEq

/-- An additional way to group. -/
inductive GroupingModifier where
  | rollup | cube | totals
  deriving DecidableEq

/-- A setting that holds for one query. -/
structure Setting where
  name : Ident
  value : Literal
  deriving DecidableEq

/-- A lock on the rows that a query reads. -/
structure RowLock where
  exclusive : Bool
  table : Option (List Ident)
  /-- `some true` fails on a locked row, `some false` skips it. -/
  nowait : Option Bool
  deriving DecidableEq

/-- How rows become the elements of an XML document. -/
inductive XmlShape where
  | raw (element : Option String)
  | auto
  | explicit
  | path (element : Option String)
  deriving DecidableEq

/-- The document that a query answers with in place of rows. -/
inductive DocumentFormat where
  | browse
  | json (path : Bool) (root : Option String) (includeNulls withoutWrapper : Bool)
  | xml (shape : XmlShape) (root : Option String) (base64 typed elements : Bool)
  deriving DecidableEq

/-- What a query says about its execution and its answer. -/
structure QueryOptions where
  settings : List Setting
  locks : List RowLock
  document : Option DocumentFormat
  /-- The format of the answer; `some none` is `NULL`. -/
  format : Option (Option Ident)
  deriving DecidableEq

/-- A query that says nothing about its execution and its answer. -/
def QueryOptions.plain : QueryOptions :=
  ⟨[], [], none, none⟩

/-- The table that a `SELECT` puts its rows into. -/
structure IntoTable where
  temporary : Bool
  unlogged : Bool
  tableWord : Bool
  name : List Ident
  deriving DecidableEq

/-- One thing by itself, or things in parentheses. -/
inductive Listed (α : Type) where
  | alone (a : α)
  | inParens (as : List α)
  deriving DecidableEq

/-- Which columns a star stands for, and under which names. Columns that it replaces are parts. -/
structure StarOptions where
  pattern : Option String
  exclude : Option (Listed Ident)
  except : List Ident
  rename : Option (Listed (Ident × Ident))
  deriving DecidableEq

/-- A star that stands for all columns under their own names. -/
def StarOptions.plain : StarOptions :=
  ⟨none, none, [], none⟩

/-- What a file of values has in a place where nothing can be read. -/
inductive JsonFallback where
  | null
  | error
  | value (v : Literal)
  deriving DecidableEq

/-- What becomes of matches without rows. -/
inductive EmptyMatches where
  | showEmpty | omitEmpty | withUnmatched
  deriving DecidableEq

/-- The rows that a match of a row pattern answers with. -/
inductive RowsPerMatch where
  | one
  | all (empty : Option EmptyMatches)
  deriving DecidableEq

/-- Where the search for a row pattern goes on behind a match. -/
inductive SkipTarget where
  | pastLastRow
  | nextRow
  | first (name : Ident)
  | last (name : Ident)
  deriving DecidableEq

/-! ## Parts of changes -/

/-- What happens to a row that breaks a constraint. -/
inductive ConflictRule where
  | rollback | abort | fail | ignore | replace
  deriving DecidableEq

/-- How urgent an `INSERT` is. -/
inductive InsertPriority where
  | low | delayed | high
  deriving DecidableEq

/-- What an `INSERT` says in front of the rows, and the names it gives to the new row. -/
structure InsertTarget where
  rule : Option ConflictRule
  priority : Option InsertPriority
  ignores : Bool
  overwrites : Bool
  intoWord : Bool
  tableWord : Bool
  name : List Ident
  columns : List Ident
  rowName : Option (List Ident × List Ident)
  deriving DecidableEq

/-- The constraint that a conflict is about. -/
inductive ConflictTarget where
  | constraint (name : List Ident)
  | columns (names : List Ident)
  deriving DecidableEq

/-- The form of a node that is no expression. -/
inductive ClauseForm where
  | absent
  /-- Pieces of text, with the parts in the gaps between them. -/
  | phrase (pieces : List (Option String))
  -- inside a function call
  /-- The arguments, then the clauses behind them. -/
  | arguments (distinct : Option Bool)
  /-- A query in place of arguments. -/
  | queryArguments
  | namedArgument (name : Ident) (sign : ArgumentSign)
  | settingsArgument (settings : List Setting)
  | nullsArgument (treatment : NullTreatment)
  | boundArgument (maximum : Bool)
  | separatorArgument (value : Literal)
  /-- What stands for values that have no room, or that this is an error. -/
  | overflowArgument (withCount : Option Bool)
  | jsonNullsArgument (omits : Bool)
  | withinGroup
  /-- Partitioning, ordering, frame. -/
  | window (base : Option Ident)
  | namedWindow (name : Ident)
  | partitionBy
  /-- First bound, second bound. -/
  | frame (unit : FrameUnit)
  | currentRow
  /-- A distance from the current row; none means unbounded. -/
  | bound (side : FrameSide)
  -- of a query
  /-- Common tables, body, `ORDER BY`, `LIMIT`, `LIMIT BY`, `OFFSET`, `FETCH`. -/
  | query (options : QueryOptions)
  | commonTables (recursive : Bool)
  /-- Alias, query. -/
  | commonTable (source : Option Ident)
  /-- The items, then `INTERPOLATE` if it is there. -/
  | orderBy
  /-- The expression, then `WITH FILL` if it is there. -/
  | orderItem (ascending nullsFirst : Option Bool)
  /-- Start, end and step, each of which may be absent. -/
  | fill
  | interpolate (listed : Bool)
  /-- A column, and the expression that gives its value if there is one. -/
  | interpolation (name : Ident)
  | limit
  | limitBy
  | offset (unit : OffsetUnit)
  | fetch (percent withTies : Bool)
  -- of a query body
  | parenthesized
  | setOperation (op : SetOperator) (quantifier : SetQuantifier)
  | values (explicitRow : Bool)
  | row
  | wholeTable (schema : Option String) (name : String)
  /-- `DISTINCT`, `TOP`, items, `FROM`, `LATERAL VIEW`, `PREWHERE`, `WHERE`, `GROUP BY`,
  `CLUSTER BY`, `DISTRIBUTE BY`, `SORT BY`, `HAVING`, `WINDOW`, `QUALIFY`, `CONNECT BY`. -/
  | select (windowFirst : Bool) (into : Option IntoTable)
  | distinct
  | distinctOn
  | topCount (n : Nat) (percent withTies : Bool)
  | topExpr (percent withTies : Bool)
  | projection
  | aliased (label : Ident)
  /-- All columns, of one table if there is a qualifier. The parts are the columns replaced. -/
  | wildcard (qualifier : List Ident) (options : StarOptions)
  | replacement (name : Ident) (asWord : Bool)
  | from
  | lateralViews
  | lateralView (outer : Bool) (name : List Ident) (columns : List Ident)
  | prewhere
  | where
  | groupBy (modifiers : List GroupingModifier)
  | groupByAll (modifiers : List GroupingModifier)
  /-- A list of expressions that are grouped by together. -/
  | groupingSet (parens : Bool)
  | clusterBy
  | distributeBy
  | sortBy
  | having
  | windows
  | windowDefinition (name : Ident)
  | qualify
  /-- The condition on the roots, then those that link a row to the one above it. -/
  | connectBy
  -- of a table
  /-- The name of a table, a derived table or a common table. The parts are its columns. -/
  | tableAlias (name : Ident)
  /-- A column of a table's alias, with its type if one is given. -/
  | aliasColumn (name : Ident)
  /-- A table, then what is joined to it. -/
  | joined
  /-- A table, then what the join requires. -/
  | join (kind : JoinKind) (natural isGlobal : Bool)
  | matchCondition
  | on
  | using (columns : List Ident)
  /-- A table, or with arguments a table function: alias, arguments, hints. -/
  | table (name : List Ident) (partitions : List Ident) (ordinality : Bool)
  | hints
  /-- What is read, then the alias (or absent); so too the next three. -/
  | derivedTable (lateral : Bool)
  | nestedJoin
  | lateralFunction (name : List Ident)
  | tableOf
  /-- The alias (or absent), then the values. -/
  | unnest (ordinality : Bool) (position : Option (Option Ident))
  /-- The value, its columns, the alias (or absent). -/
  | jsonTable (path : Literal)
  | openJson (path : Option Literal)
  /-- The part is the type. -/
  | jsonColumn (name : Ident) (test : Bool) (path : Literal) (onEmpty onError : Option JsonFallback)
  | jsonOrdinal (name : Ident)
  | jsonNested (path : Literal)
  /-- The part is the type. -/
  | openJsonColumn (name : Ident) (path : Option String) (asJson : Bool)
  /-- Table, functions, values, default value (or absent), alias (or absent). -/
  | pivot (column : List Ident)
  | pivotFunctions
  | pivotValues
  | pivotAny
  /-- Table, alias (or absent). -/
  | unpivot (value name : Ident) (columns : List Ident)
  /-- Table, partitioning, ordering, measures, definitions, alias (or absent). -/
  | matchRecognize (rows : Option RowsPerMatch) (skip : Option SkipTarget) (pattern : String)
  | measures
  | definitions
  | definition (name : Ident)
  -- of a change
  /-- Rows (or absent), partition, what to do about conflicts, `RETURNING`. -/
  | insert (target : InsertTarget)
  | insertDirectory (overwrites isLocal : Bool) (path : String) (format : Option String)
  | insertPartition
  /-- The assignments, then a condition if there is one. -/
  | onConflict (target : Option ConflictTarget) (updates : Bool)
  | onDuplicateKey
  | returning
  /-- Tables, assignments, `FROM`, `WHERE`, `RETURNING`. -/
  | update (rule : Option ConflictRule)
  | assignments
  | assignment (columns : Listed (List Ident))
  deriving DecidableEq

/-- The form of a node. -/
inductive Form where
  | expr (e : ExprForm)
  | clause (c : ClauseForm)
  deriving DecidableEq

end MetricQuery.Sql
