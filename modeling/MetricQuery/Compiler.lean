import MetricQuery.Catalog
import MetricQuery.Correction.Pipeline
import MetricQuery.Engine.Registry
import MetricQuery.Planning.Physical
import MetricQuery.Semantics.Classification

/-!
# The compiler — from a request to a query over the store

The text of a request is put into the words of the engine and corrected. The fields that it then
refers to are classified, a metric is made up if it asks for none, and the physical query is built
and limited. Only a text that cannot be read stops the compiler; everything else that goes wrong on
the way leaves a warning.
-/

namespace MetricQuery

open MetricQuery.Sql MetricQuery.Correction MetricQuery.Text

/-- A text that is no query, and what is wrong with it. -/
structure CompileError where
  sql : String
  message : String
  deriving DecidableEq, Repr

/-- The error with its text on a line of its own. -/
def CompileError.render (e : CompileError) : String :=
  "Malformed SQL: " ++ e.message ++ "\n  in: " ++ e.sql

/-- How requests are compiled. -/
structure Compiler where
  engines : Engine.Registry
  pipeline : Pipeline
  ceiling : Nat
  defaultMetric : DefaultMetricPolicy

namespace Compiler

/-- A compiler with a ceiling on rows, which appends columns or does not, and which knows further
names for engines. -/
def configured (ceiling : Nat) (appendColumns : Bool) (aliases : List (String × String)) :
    Compiler where
  engines := Engine.Registry.standard.withAliases aliases
  pipeline := .configured ceiling appendColumns
  ceiling := ceiling
  defaultMetric := catalogDefaultMetric

/-- The compiler that nothing has been configured for. -/
def standard : Compiler :=
  configured defaultCeiling true []

/-- The engine of a database type, or a warning that there is none. -/
def engineFor (c : Compiler) (databaseType : Option String) : Option Engine × List Warning :=
  match databaseType with
  | none => (none, [])
  | some type =>
    match c.engines.lookup? type with
    | some e => (some e, [])
    | none => (none, [⟨"engine", "no adaptor for database type `" ++ type ++ "`"⟩])

/-- The text of a request in the words of the engine. -/
def engineText (engine : Option Engine) (sql : String) : String :=
  match engine with
  | some e => e.rewordText sql
  | none => sql

/-- The text of a request after all corrections, and their warnings. -/
def correctedText (c : Compiler) (engine : Option Engine) (sql : String) :
    String × List Warning :=
  c.pipeline.correct engine (engineText engine sql)

/-- The logical table of a request, and the metric that is made up for it if it asks for none. -/
def logicalTable (c : Compiler) (s : Schema) (tableName : String) (fields : List String)
    (sql : String) : LogicalTable × Option SynthesizedMetric :=
  let classified := Classification.ofFields s fields sql
  if classified.metrics.isEmpty then
    let made := c.defaultMetric s classified.dimensions
    (⟨lower tableName, [made.name], classified.dimensions⟩, some made)
  else (⟨lower tableName, classified.metrics, classified.dimensions⟩, none)

/-- A warning if the model declares nothing. -/
def emptySchemaWarnings (s : Schema) : List Warning :=
  if s.isEmpty then [⟨"schema", "model " ++ toString s.id ++ " declares no fields"⟩] else []

/-- The query over the store with its rows limited. -/
def limited (c : Compiler) (sql : String) : String × List Warning :=
  let (d, warnings) := Pipeline.runStage none (.rowLimit c.ceiling) (.ofText sql)
  (d.text, warnings)

/-- Compiles a request over the table of a model whose name is given. -/
def compileTable (c : Compiler) (databaseType : Option String) (s : Schema) (tableName : String)
    (r : Request) : Except CompileError Compiled :=
  let (engine, engineWarnings) := c.engineFor databaseType
  let (sql, correctionWarnings) := c.correctedText engine r.sql
  match Query.parse sql with
  | .error err => .error ⟨sql, err.message⟩
  | .ok corrected =>
    let (table, made) :=
      c.logicalTable s tableName (corrected.fields ++ r.selectedFields) sql
    match Physical.ofRequest (r.toLogical sql s.fullPath [table]) s made with
    | .error err => .error ⟨sql, err.message⟩
    | .ok physical =>
      let (text, limitWarnings) := c.limited physical.sql
      .ok ⟨text, some table, physical.hasAggregation,
        engineWarnings ++ correctionWarnings ++ emptySchemaWarnings s ++ physical.warnings
          ++ limitWarnings⟩

/-- The schema that a request is compiled with: the one of its model, or else the first. -/
def chooseSchema? (schemas : List Schema) (modelId : Nat) : Option Schema :=
  (schemas.find? fun s => s.id = modelId).or schemas.head?

/-- Compiles a request with one of the given schemas. There is nothing to compile if there is no
schema or if the text reads no table by name. -/
def convert (c : Compiler) (databaseType : Option String) (schemas : List Schema) (r : Request) :
    Except CompileError Compiled :=
  match Query.parse r.sql with
  | .error err => .error ⟨r.sql, err.message⟩
  | .ok q =>
    match chooseSchema? schemas r.modelId, q.tableName? with
    | some s, some tableName => c.compileTable databaseType s tableName r
    | _, _ => .ok .empty

/-- Compiles a request with the schema that one catalog has for its model and the database type
that another one has: the two are read one after the other. -/
def compileReading (c : Compiler) (schemas types : Catalog) (r : Request) :
    Except CompileError Compiled :=
  c.convert (types.databaseType? r.modelId) (schemas.schema? r.modelId).toList r

/-- Compiles a request of a catalog's model. -/
def compile (c : Compiler) (catalog : Catalog) (r : Request) : Except CompileError Compiled :=
  c.compileReading catalog catalog r

end Compiler

end MetricQuery
