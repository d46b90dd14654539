import MetricQuery.Config.Settings
import MetricQuery.Data.Json
import MetricQuery.Model.Record

/-!
# Files — catalogs and settings from files

What is at a path is a text, something that cannot be read, or nothing. A catalog is written in
TOML or in JSON; the ending of its path, in any letter case, tells which.
-/

namespace MetricQuery

open MetricQuery.Text

/-- What is at a path. -/
inductive FileState where
  | absent
  | unreadable (reason : String)
  | text (content : String)
  deriving DecidableEq, Repr

/-- Why there is no catalog. -/
inductive CatalogError where
  | fileNotFound (path : String)
  | unreadableFile (reason : String)
  | badToml
  | badJson
  | unsupportedFormat (path : String)
  | duplicateModel (id : Nat)
  deriving DecidableEq, Repr

/-- The wording of the error. -/
def CatalogError.message : CatalogError → String
  | fileNotFound path => "Catalog file not found: " ++ path
  | unreadableFile reason => "Failed to read catalog file: " ++ reason
  | badToml => "Failed to parse TOML catalog"
  | badJson => "Failed to parse JSON catalog"
  | unsupportedFormat path =>
    "Unsupported catalog format: " ++ path ++ " (expected .toml or .json)"
  | duplicateModel id => Catalog.DuplicateModel.message ⟨id⟩

/-- The last part of a path, without slashes behind it. -/
def fileName (path : String) : List Char :=
  ((path.toList.reverse.dropWhile (· = '/')).takeWhile (· ≠ '/')).reverse

/-- What stands behind the last dot of the path's last part, if anything stands in front of it. -/
def fileExtension? (path : String) : Option String :=
  let name := fileName path
  let ending := (name.reverse.takeWhile (· ≠ '.')).reverse
  let stem := name.take (name.length - ending.length - 1)
  if stem.isEmpty || ending.length = name.length || name = ['.', '.'] then none
  else some (String.ofList ending)

namespace Catalog

/-- The catalog of the models that a file lists, if they can be read. -/
def ofList (unparsable : CatalogError) (models : Option (List CatalogModel)) :
    Except CatalogError Catalog :=
  match models with
  | none => .error unparsable
  | some models =>
    match ofModels models with
    | .ok c => .ok c
    | .error d => .error (.duplicateModel d.id)

/-- The catalog of a TOML document. -/
def parseToml (text : String) : Except CatalogError Catalog :=
  ofList .badToml ((Toml.parse? text).bind (modelsOfValue? none))

/-- The levels that lists and objects may lie deep in a model of a JSON text. -/
def jsonLevels : Nat := 125

/-- The catalog of a JSON text. -/
def parseJson (text : String) : Except CatalogError Catalog :=
  ofList .badJson ((Json.parse? text).bind (modelsOfValue? (some jsonLevels)))

/-- The catalog at a path. -/
def ofFile (path : String) : FileState → Except CatalogError Catalog
  | .absent => .error (.fileNotFound path)
  | .unreadable reason => .error (.unreadableFile reason)
  | .text content =>
    match (fileExtension? path).map lower with
    | some "toml" => parseToml content
    | some "json" => parseJson content
    | _ => .error (.unsupportedFormat path)

end Catalog

/-- The settings at a path. -/
def Settings.ofFile (path : String) : FileState → Except SettingsError Settings
  | .absent => .error (.fileNotFound path)
  | .unreadable reason => .error (.unreadableFile reason)
  | .text content => Settings.parse content

end MetricQuery
