import MetricQuery.Sql.Columns

/-!
# Sources — the tables that a `SELECT` reads

The `FROM` clause is a list of tables, each with the tables that are joined to it. The sources are
all of these, in the order in which they are written; a table inside parentheses or inside a nested
query is no source of its own.
-/

namespace MetricQuery.Sql

namespace SyntaxTree

/-- Applies a change to the table of a join. -/
def mapJoined {ε : Type} (f : SyntaxTree → Except ε SyntaxTree) : SyntaxTree → Except ε SyntaxTree
  | .node (.clause (.join kind natural isGlobal)) (table :: rest) => do
    return .clause (.join kind natural isGlobal) ((← f table) :: rest)
  | t => .ok t

/-- Applies a change to a table and to the tables that are joined to it, in order. -/
def mapSources {ε : Type} (f : SyntaxTree → Except ε SyntaxTree) : SyntaxTree → Except ε SyntaxTree
  | .node (.clause .joined) (table :: joins) => do
    let table ← f table
    return .clause .joined (table :: (← joins.mapM (mapJoined f)))
  | t => .ok t

/-- The table of a join. -/
def joinedTable? : SyntaxTree → Option SyntaxTree
  | .node (.clause (.join _ _ _)) (table :: _) => some table
  | _ => none

/-- A table and the tables that are joined to it. -/
def sources : SyntaxTree → List SyntaxTree
  | .node (.clause .joined) (table :: joins) => table :: joins.filterMap joinedTable?
  | _ => []

/-- The name of a table, without its qualifiers. -/
def tableName? : SyntaxTree → Option Ident
  | .node (.clause (.table name _ _)) _ => name.getLast?
  | _ => none

/-- The name that an alias gives to a table. -/
def aliasName? : SyntaxTree → Option Ident
  | .node (.clause (.tableAlias name)) _ => some name
  | _ => none

/-- The name by which a query refers to a table that has a name: the alias if there is one. -/
def boundName? : SyntaxTree → Option Ident
  | .node (.clause (.table name _ _)) parts => (parts.head?.bind aliasName?).or name.getLast?
  | _ => none

end SyntaxTree

namespace Select

/-- The tables that the `SELECT` reads. -/
def sourceTables (s : Select) : List SyntaxTree :=
  s.sources.parts.flatMap SyntaxTree.sources

/-- The `SELECT` with a change applied to each table that it reads. -/
def mapSources {ε : Type} (f : SyntaxTree → Except ε SyntaxTree) (s : Select) : Except ε Select :=
  match s.sources with
  | .node (.clause .from) tables => do
    return { s with sources := .clause .from (← tables.mapM (SyntaxTree.mapSources f)) }
  | _ => .ok s

/-- The name of the table that is read first, without its qualifiers. -/
def tableName? (s : Select) : Option Ident :=
  s.sourceTables.head?.bind SyntaxTree.tableName?

end Select

/-- The name of the table that the query reads first. -/
def Query.tableName? (q : Query) : Option String :=
  (q.select?.bind Select.tableName?).map Ident.name

end MetricQuery.Sql
