import MetricQuery.Planning.SourceQuery
import MetricQuery.Sql.FieldNames
import MetricQuery.Sql.Sources
import MetricQuery.Sql.Statement

/-!
# Physical queries — a request over a logical table as a query over the store

The columns of the request take their technical names, and each table that bears the name of the
logical table gives way to the query that reads it from the store, under the name by which the
request refers to it.
-/

namespace MetricQuery

open MetricQuery.Sql MetricQuery.Text

/-- Why a request has no physical query. -/
inductive PlanError where
  | noLogicalTable
  | unreadable (cause : ParseError)
  /-- The text that was to stand for a table is read as something else. -/
  | noDerivedTable (text : String)
  deriving DecidableEq

/-- The wording of the error. -/
def PlanError.message : PlanError → String
  | noLogicalTable => "Request carries no logical table"
  | unreadable cause => cause.message
  | noDerivedTable text => "Expected a single SELECT statement, found " ++ text

/-- A query over the store, before its rows are limited. -/
structure Physical where
  sql : String
  /-- Whether the request itself aggregates. -/
  hasAggregation : Bool
  warnings : List Warning
  deriving DecidableEq, Repr

namespace Physical

/-- The stage that warnings name. -/
def stageName : String := "planner"

/-- The technical name of the element that a field stands for. -/
def technicalName? (scope : Scope) (field : String) : Option String :=
  match (scope.resolve field).target with
  | .dimension e | .metric e => some e.technicalName
  | _ => none

/-- The technical names of the fields that stand for an element. -/
def fieldNames (scope : Scope) (fields : List String) : FieldNames :=
  .ofList (fields.filterMap fun field => (technicalName? scope field).map (field, ·))

/-- What there is to say about a field. -/
def fieldWarnings (scope : Scope) (field : String) : List Warning :=
  let r := scope.resolve field
  (if r.ambiguous then
      [⟨stageName, "ambiguous identifier `" ++ field ++ "` resolved by business name"⟩]
    else [])
    ++ if r.isUnknown then [⟨stageName, "unknown identifier `" ++ field ++ "` passed through"⟩]
    else []

/-- The text of a query that reads a derived table and nothing else. -/
def wrappedText (inner name : String) : String :=
  "SELECT * FROM (" ++ inner ++ ") AS " ++ name

/-- A query in parentheses as a table of the given name. -/
def derivedTable (inner name : String) : Except PlanError SyntaxTree :=
  match Query.parse (wrappedText inner name) with
  | .error cause => .error (.unreadable cause)
  | .ok q =>
    match q.select?.bind fun s => s.sourceTables.head? with
    | some table => .ok table
    | none => .error (.noDerivedTable (wrappedText inner name))

/-- Whether a table bears a name, in any letter case. -/
def bearsName (name : String) (table : SyntaxTree) : Bool :=
  match table.tableName? with
  | some own => sameName own.name name
  | none => false

/-- The derived table in place of a table that bears the name; any other table as it is. -/
def attachTo (name inner : String) (table : SyntaxTree) : Except PlanError SyntaxTree :=
  if bearsName name table then
    derivedTable inner (((table.boundName?).map Ident.render).getD "")
  else .ok table

/-- The query with the derived table in place of each table that bears the name. -/
def attachSource (name inner : String) (q : Query) : Except PlanError Query :=
  match q.select? with
  | none => .ok q
  | some s => do
    let s' ← s.mapSources (attachTo name inner)
    return { q with body := s'.toTree }

/-- Whether the query reads a table of the name. -/
def readsTable (name : String) (q : Query) : Bool :=
  (q.select?.map fun s => s.sourceTables.any (bearsName name)).getD false

/-- The names that a request is read with. -/
def scopeOf (s : Schema) (made : Option SynthesizedMetric) (q : Query) : Scope :=
  ⟨s, made.map SynthesizedMetric.name, (q.select?.map Select.aliases).getD []⟩

/-- The physical query of a query over a logical table. -/
def ofQuery (s : Schema) (made : Option SynthesizedMetric) (t : LogicalTable) (q : Query) :
    Except PlanError (Query × List Warning) := do
  let scope := scopeOf s made q
  let inner := (SourceQuery.ofTable scope made t).render
  let renamed := q.renameColumns (fieldNames scope q.fields)
  let warnings := q.fields.flatMap (fieldWarnings scope)
    ++ if readsTable t.name renamed then []
      else [⟨stageName, "logical table `" ++ t.name ++ "` not found in FROM"⟩]
  return (← attachSource t.name inner renamed, warnings)

/-- The physical query of a request over its first logical table. -/
def ofRequest (r : LogicalRequest) (s : Schema) (made : Option SynthesizedMetric) :
    Except PlanError Physical :=
  match r.tables with
  | [] => .error .noLogicalTable
  | t :: _ =>
    match Query.parse r.sql with
    | .error cause => .error (.unreadable cause)
    | .ok q => do
      let (physical, warnings) ← ofQuery s made t q
      return ⟨physical.render, q.aggregates, warnings⟩

end Physical

end MetricQuery
