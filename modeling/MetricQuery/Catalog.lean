import MetricQuery.Model.Schema

/-!
# Catalogs — the models that requests can be made of

A catalog holds each model under its id, with the type of the database that its table is in.
-/

namespace MetricQuery

/-- A model in a catalog. -/
structure CatalogModel where
  schema : Schema
  databaseType : Option String

/-- Models by their ids. -/
structure Catalog where
  models : SortedMap Nat CatalogModel

namespace Catalog

def empty : Catalog :=
  ⟨.empty⟩

/-- The schema of the model of an id. -/
def schema? (c : Catalog) (id : Nat) : Option Schema :=
  (c.models.get? id).map CatalogModel.schema

/-- The type of the database that the model of an id is stored in. -/
def databaseType? (c : Catalog) (id : Nat) : Option String :=
  (c.models.get? id).bind CatalogModel.databaseType

def contains (c : Catalog) (id : Nat) : Bool :=
  c.models.contains id

/-- The ids of the models, ascending. -/
def ids (c : Catalog) : List Nat :=
  c.models.keys

def size (c : Catalog) : Nat :=
  c.models.size

def isEmpty (c : Catalog) : Bool :=
  c.models.isEmpty

/-- The catalog with a model, in place of any other one of its id. -/
def register (c : Catalog) (s : Schema) (databaseType : Option String) : Catalog :=
  ⟨c.models.insert s.id ⟨s, databaseType⟩⟩

/-- The catalog with the schema of a model changed; the type of its database stays. -/
def replace (c : Catalog) (s : Schema) : Catalog :=
  c.register s (c.databaseType? s.id)

/-- The catalog without a model. -/
def remove (c : Catalog) (id : Nat) : Catalog :=
  ⟨c.models.erase id⟩

/-- `replace` with its answer, the schema that the new one comes in the place of. A model that has not
been there is put in without a type. -/
def exchange (c : Catalog) (s : Schema) : Catalog × Option Schema :=
  match c.models.get? s.id with
  | some m => (⟨c.models.insert s.id { m with schema := s }⟩, some m.schema)
  | none => (⟨c.models.insert s.id ⟨s, none⟩⟩, none)

/-- `remove` with its answer, the schema that is taken out. -/
def withdraw (c : Catalog) (id : Nat) : Catalog × Option Schema :=
  (⟨c.models.erase id⟩, (c.models.get? id).map CatalogModel.schema)

/-- The id that two models of a list would share. -/
structure DuplicateModel where
  id : Nat
  deriving DecidableEq

/-- The wording of the error. -/
def DuplicateModel.message (d : DuplicateModel) : String :=
  "Duplicate model id: " ++ toString d.id

/-- The catalog with further models, whose ids have to be new. -/
def registerNew (c : Catalog) : List CatalogModel → Except DuplicateModel Catalog
  | [] => .ok c
  | m :: rest =>
    if c.contains m.schema.id then .error ⟨m.schema.id⟩
    else (c.register m.schema m.databaseType).registerNew rest

/-- The catalog of these models. -/
def ofModels (models : List CatalogModel) : Except DuplicateModel Catalog :=
  empty.registerNew models

end Catalog

end MetricQuery
