import MetricQuery.CommandLine.Arguments
import MetricQuery.Config.File

/-!
# Running a command — what it prints and how it ends

A command looks at environment variables and files through a `World`, and answers with what it
prints and with its exit code. Problems go to the error output; what cannot be done ends with
code 1, and words that are no command with code 2.
-/

namespace MetricQuery.CommandLine

open MetricQuery.Text

/-- What a command can look at. -/
structure World (m : Type → Type) where
  environment : String → m (Option String)
  file : String → m FileState

/-- The end of a command. -/
structure Exit where
  code : Nat
  out : String
  err : String
  deriving DecidableEq, Repr

/-- The end of a command that has printed a text. -/
def Exit.success (out : String) (warnings : List Warning) : Exit :=
  ⟨0, out, String.join (warnings.map fun w => "warning: " ++ w.render ++ "\n")⟩

/-- The end of a command that cannot be carried out. -/
def Exit.failure (message : String) : Exit :=
  ⟨1, "", message ++ "\n"⟩

/-- The end of words that are no command. -/
def Exit.usage : Exit :=
  ⟨2, "", "usage: semql compile|correct|models [options]\n"⟩

/-! ## The commands over settings and a catalog -/

/-- The catalog of a path, or what is to be said of it. -/
def catalogAt (path : String) (state : FileState) : Except String Catalog :=
  match Catalog.ofFile path state with
  | .ok c => .ok c
  | .error err => .error ("Error loading catalog '" ++ path ++ "': " ++ err.message)

/-- A compiled query as a value. -/
def compiledValue (c : Compiled) : Value :=
  let names (xs : List String) := Value.list (xs.map .text)
  .object [
    ("sql", .text c.sql),
    ("logical_table", (c.logicalTable.map fun t => Value.object [
      ("alias", .text t.name),
      ("metrics", names t.metrics),
      ("dimensions", names t.dimensions)]).getD .null),
    ("has_aggregation", .boolean c.hasAggregation),
    ("warnings", .list (c.warnings.map fun w => .object [
      ("stage", .text w.stage),
      ("message", .text w.message)]))]

/-- Compiles a query and prints it. -/
def runCompile (s : Settings) (c : Catalog) (sql : String) (model : Nat)
    (output : OutputFormat) : Exit :=
  match s.toCompiler.compile c ⟨model, sql, []⟩ with
  | .error err => .failure ("Compilation error: " ++ err.render)
  | .ok compiled =>
    if compiled.isEmpty then
      .failure ("Nothing to compile: model " ++ toString model
        ++ " not found or SQL names no table")
    else
      match output with
      | .sql => .success (compiled.sql ++ "\n") compiled.warnings
      | .json => .success (Json.render (compiledValue compiled) ++ "\n") []

/-- The engine of the given name, or what is to be said of it. -/
def chosenEngine (s : Settings) : Option String → Except String (Option Engine)
  | none => .ok none
  | some name =>
    match s.engines.lookup? name with
    | some e => .ok (some e)
    | none => .error (Engine.Unsupported.message ⟨name⟩)

/-- Corrects a query and prints it. -/
def runCorrect (s : Settings) (sql : String) (engine : Option String) (limit : Option Nat) :
    Exit :=
  match chosenEngine s engine with
  | .error message => .failure message
  | .ok engine =>
    let ceiling := limit.getD s.compiler.limitCeiling
    let pipeline := Correction.Pipeline.configured ceiling s.compiler.appendFilterFields
    let (text, warnings) := pipeline.correct engine sql
    .success (text ++ "\n") warnings

/-- The line that a model has in the list of models. -/
def modelLine (id : Nat) (m : CatalogModel) : String :=
  "  - " ++ toString id ++ " " ++ m.schema.name ++ " (source: \"" ++ m.schema.sourceTable
    ++ "\", engine: " ++ m.databaseType.getD "-" ++ ", "
    ++ toString m.schema.dimensions.length ++ " dimensions, "
    ++ toString m.schema.metrics.length ++ " metrics)\n"

/-- Lists the models of a catalog. -/
def runModels (c : Catalog) : Exit :=
  if c.isEmpty then .success "No models defined.\n" []
  else
    .success ("Models:\n" ++ String.join (c.models.entries.map fun e => modelLine e.1 e.2)) []

/-! ## Settings and catalog from the world -/

variable {m : Type → Type} [Monad m]

/-- The directory of the user's settings. -/
def configDirectory? (w : World m) : m (Option String) := do
  match ← w.environment "XDG_CONFIG_HOME" with
  | some path => if path.startsWith "/" then return some path else home
  | none => home
where
  home := do
    match ← w.environment "HOME" with
    | some path => if path.isEmpty then return none else return some (path ++ "/.config")
    | none => return none

/-- The settings at a path, or none if nothing is there. -/
def settingsAt? (w : World m) (path : String) : m (Option (Except SettingsError Settings)) := do
  match ← w.file path with
  | .absent => return none
  | state => return some (Settings.ofFile path state)

/-- The settings of the file that a variable names, else of the one in the working directory, else
of the user's, else the defaults. -/
def loadSettings (w : World m) : m (Except SettingsError Settings) := do
  if let some path ← w.environment "SEMQL_CONFIG" then
    return Settings.ofFile path (← w.file path)
  if let some settings ← settingsAt? w "semql.toml" then
    return settings
  if let some directory ← configDirectory? w then
    if let some settings ← settingsAt? w (directory ++ "/semql/config.toml") then
      return settings
  return .ok .default

/-- The values of variables as a function. -/
def readVariables (w : World m) (names : List String) : m (String → Option String) := do
  let values ← names.mapM fun name => do return (name, ← w.environment name)
  return fun name => (values.find? fun v => v.1 = name).bind (·.2)

/-- The catalog at the given path or else at the configured one, or what is to be said of it. -/
def loadCatalog (w : World m) (s : Settings) (given : Option String) :
    m (Except String Catalog) := do
  match given with
  | some path => return catalogAt path (← w.file path)
  | none =>
    let values ← readVariables w ((s.catalogPath.map Template.variableNames).getD [])
    match s.expandedCatalogPath values with
    | .error err => return .error err.message
    | .ok none => return .error "no catalog given and no [catalog] path configured"
    | .ok (some path) => return catalogAt path (← w.file path)

/-- Carries out a command over a catalog from the world. -/
def withCatalog (w : World m) (s : Settings) (given : Option String) (work : Catalog → Exit) :
    m Exit := do
  match ← loadCatalog w s given with
  | .ok c => return work c
  | .error message => return .failure message

/-- Carries out a command. -/
def runCommand (w : World m) (s : Settings) : Command → m Exit
  | .compile sql catalog model output =>
    withCatalog w s catalog fun c => runCompile s c sql model output
  | .correct sql engine limit => return runCorrect s sql engine limit
  | .models catalog => withCatalog w s catalog runModels

/-- The line that names the program and its version. -/
def versionLine : String :=
  "semql 0.1.0\n"

/-- Carries out what words ask for. -/
def run (w : World m) (words : List String) : m Exit := do
  if asksForVersion words then return .success versionLine []
  match Command.ofWords? words with
  | none => return .usage
  | some command =>
    match ← loadSettings w with
    | .error err => return .failure ("Error loading settings: " ++ err.message)
    | .ok settings => runCommand w settings command

end MetricQuery.CommandLine
