import MetricQuery.Correction.BucketOrder
import MetricQuery.Model.InternalColumn
import MetricQuery.Sql.Columns

/-!
# Appended columns — showing what a query filters and sorts by

Whoever reads the rows of a query expects to see each column that the query filters or sorts by. A
plain `SELECT` gets those columns appended that its list neither refers to nor declares as an
output name; reserved columns stay hidden. A `SELECT` that asks for all columns or that aggregates
is left as it is.
-/

namespace MetricQuery.Correction

open MetricQuery.Text MetricQuery.Sql

/-- The name of a column reference. -/
def referenceName (column : SyntaxTree) : String :=
  (column.columnName?.map Ident.name).getD ""

/-- The columns that the query itself filters and sorts by, the first reference to each. -/
def referencedColumns (q : Query) (s : Select) : List SyntaxTree :=
  distinctBy referenceName (s.conditionColumns ++ q.orderColumns)

/-- Whether a column is to be appended: the `SELECT` list does not have its name, and it is no
reserved column. -/
def isMissing (s : Select) (column : SyntaxTree) : Bool :=
  !hasName s.fields (referenceName column) && (internalColumn? (referenceName column)).isNone

/-- The columns to append. Their order is that of a table for all columns referred to. -/
def appendedColumns (q : Query) (s : Select) : List SyntaxTree :=
  let referenced := referencedColumns q s
  bucketOrder referenceName referenced.length (referenced.filter (isMissing s))

/-- Whether columns may be appended to the `SELECT` list. -/
def takesColumns (s : Select) : Bool :=
  !(s.hasWildcard || s.aggregates)

/-- The query with its columns appended, if there is any to append. -/
def appendColumns? (q : Query) : Option Query :=
  match q.select? with
  | none => none
  | some s =>
    if takesColumns s && (referencedColumns q s).any (isMissing s) then
      some { q with body := (s.withItems (s.items ++ appendedColumns q s)).toTree }
    else none

end MetricQuery.Correction
