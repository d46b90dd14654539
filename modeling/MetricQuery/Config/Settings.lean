import MetricQuery.Compiler
import MetricQuery.Config.Template
import MetricQuery.Data.Toml

/-!
# Settings — what can be configured

Settings are a TOML document of three tables. Whatever it leaves out has a default, and what it
says beyond them does not count.
-/

namespace MetricQuery

/-- The settings of the compiler. -/
structure CompilerSettings where
  /-- The most rows that a query may ask for. -/
  limitCeiling : Nat
  /-- Whether columns that a query filters or sorts by are appended to its list. -/
  appendFilterFields : Bool
  deriving DecidableEq, Repr

/-- All settings. -/
structure Settings where
  compiler : CompilerSettings
  /-- Further names for engines, each with the name of an engine. -/
  engineAliases : List (String × String)
  /-- Where the catalog is; a template of environment variables. -/
  catalogPath : Option String
  deriving DecidableEq, Repr

/-- Why there are no settings. -/
inductive SettingsError where
  | fileNotFound (path : String)
  | unreadableFile (reason : String)
  | unparsable
  | invalid (reason : String)
  deriving DecidableEq, Repr

/-- The wording of the error. -/
def SettingsError.message : SettingsError → String
  | fileNotFound path => "Config file not found: " ++ path
  | unreadableFile reason => "Failed to read config file: " ++ reason
  | unparsable => "Failed to parse config file"
  | invalid reason => "Invalid configuration: " ++ reason

/-- The settings of the compiler that hold if nothing is configured. -/
def CompilerSettings.default : CompilerSettings :=
  ⟨Correction.defaultCeiling, true⟩

/-- The settings in a table. -/
def CompilerSettings.ofValue? (v : Value) : Option CompilerSettings := do
  let fields ← Fields.ofValue? ["limit_ceiling", "append_filter_fields"] true v
  return {
    limitCeiling := ← fields.withDefault "limit_ceiling" default.limitCeiling Value.word?
    appendFilterFields :=
      ← fields.withDefault "append_filter_fields" default.appendFilterFields Value.boolean? }

namespace Settings

/-- The settings that hold if nothing is configured. -/
def default : Settings :=
  ⟨.default, [], none⟩

/-- The names for engines in a table. -/
def aliasesOfValue? (v : Value) : Option (List (String × String)) := do
  let fields ← Fields.ofValue? ["aliases"] true v
  fields.withDefault "aliases" [] (Value.entries? Value.text?)

/-- The path of the catalog in a table. -/
def pathOfValue? (v : Value) : Option (Option String) := do
  let fields ← Fields.ofValue? ["path"] true v
  fields.withDefault "path" none (Value.nullable? Value.text?)

/-- The settings in a document. -/
def ofValue? (v : Value) : Option Settings := do
  let fields ← Fields.ofValue? ["compiler", "engines", "catalog"] true v
  return {
    compiler := ← fields.withDefault "compiler" .default CompilerSettings.ofValue?
    engineAliases := ← fields.withDefault "engines" [] aliasesOfValue?
    catalogPath := ← fields.withDefault "catalog" none pathOfValue? }

/-- The settings of a text. A ceiling of no rows at all is refused. -/
def parse (text : String) : Except SettingsError Settings :=
  match (Toml.parse? text).bind ofValue? with
  | none => .error .unparsable
  | some settings =>
    if settings.compiler.limitCeiling = 0 then
      .error (.invalid "compiler.limit_ceiling must be positive")
    else .ok settings

/-- The path of the catalog with the values of environment variables put in. -/
def expandedCatalogPath (s : Settings) (value? : String → Option String) :
    Except Template.MissingVariable (Option String) :=
  match s.catalogPath with
  | none => .ok none
  | some path => (Template.expand value? path).map some

/-- The corrections that the settings ask for. -/
def pipeline (s : Settings) : Correction.Pipeline :=
  .configured s.compiler.limitCeiling s.compiler.appendFilterFields

/-- The engines that the settings know. -/
def engines (s : Settings) : Engine.Registry :=
  Engine.Registry.standard.withAliases s.engineAliases

/-- The compiler that the settings ask for. -/
def toCompiler (s : Settings) : Compiler :=
  .configured s.compiler.limitCeiling s.compiler.appendFilterFields s.engineAliases

end Settings

end MetricQuery
