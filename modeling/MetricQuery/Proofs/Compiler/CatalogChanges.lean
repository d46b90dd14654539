import MetricQuery.Compiler

/-!
# Catalog changes — what a request sees while others change the catalog

A request reads the catalog twice: the schema of its model when it comes in, and the type of the
model's database a little later. Others may change the catalog in between. The request is compiled
with the schema of the first reading and with the type of the second one, and no state of the catalog
need ever have had both.
-/

namespace MetricQuery

/-- A single change of a catalog. -/
inductive CatalogChange where
  | register (s : Schema) (databaseType : Option String)
  | replace (s : Schema)
  | remove (id : Nat)

namespace CatalogChange

variable {id : Nat}

/-- The catalog after the change. -/
def apply (catalog : Catalog) : CatalogChange → Catalog
  | register s databaseType => catalog.register s databaseType
  | replace s => catalog.replace s
  | remove id => catalog.remove id

/-- The type of a model's database after the change, given the one before. -/
def typeAfter (id : Nat) (type : Option String) : CatalogChange → Option String
  | register s databaseType => if s.id = id then databaseType else type
  | replace _ => type
  | remove other => if other = id then none else type

/-- Whether the change sets the type of a model's database. -/
def setsType (id : Nat) : CatalogChange → Prop
  | register s _ => s.id = id
  | replace _ => False
  | remove other => other = id

/-- A schema that is replaced leaves the type of the database as it is, and it gives none to a model
that has not been there. -/
theorem databaseType?_apply (catalog : Catalog) (change : CatalogChange) :
    (apply catalog change).databaseType? id = change.typeAfter id (catalog.databaseType? id) := by
  have hregister : ∀ s type, (catalog.register s type).databaseType? id
      = if s.id = id then type else catalog.databaseType? id := by
    intro s type
    rw [Catalog.databaseType?, Catalog.register, SortedMap.get?_insert]
    by_cases h : s.id = id
    · rw [if_pos h, if_pos h]
      rfl
    · rw [if_neg h, if_neg h]
      rfl
  cases change with
  | register s type => exact hregister s type
  | replace s =>
    -- the schema is registered with the type that there has been
    show (catalog.register s (catalog.databaseType? s.id)).databaseType? id
      = catalog.databaseType? id
    rw [hregister]
    by_cases h : s.id = id
    · rw [if_pos h, h]
    · rw [if_neg h]
  | remove other =>
    show (catalog.remove other).databaseType? id
      = if other = id then none else catalog.databaseType? id
    rw [Catalog.databaseType?, Catalog.remove, SortedMap.get?_erase]
    by_cases h : other = id
    · rw [if_pos h, if_pos h]
      rfl
    · rw [if_neg h, if_neg h]
      rfl

theorem typeAfter_of_not_setsType {change : CatalogChange} (h : ¬ change.setsType id)
    (type : Option String) : change.typeAfter id type = type := by
  cases change with
  | register s own => exact if_neg h
  | replace s => rfl
  | remove other => exact if_neg h

end CatalogChange

namespace Catalog

variable {id : Nat}

/-- The catalog after changes, one after the other. -/
def after (catalog : Catalog) (changes : List CatalogChange) : Catalog :=
  changes.foldl CatalogChange.apply catalog

theorem databaseType?_after (catalog : Catalog) (changes : List CatalogChange) :
    (catalog.after changes).databaseType? id
      = changes.foldl (CatalogChange.typeAfter id) (catalog.databaseType? id) := by
  induction changes generalizing catalog with
  | nil => rfl
  | cons change rest ih =>
    calc (catalog.after (change :: rest)).databaseType? id
        = rest.foldl (CatalogChange.typeAfter id) ((change.apply catalog).databaseType? id) := ih _
      _ = _ := by rw [CatalogChange.databaseType?_apply, List.foldl_cons]

end Catalog

namespace Compiler

variable {c : Compiler} {type type' : Option String} {schemas : List Schema} {r : Request}

theorem convert_congr (h : c.engineFor type' = c.engineFor type) :
    c.convert type' schemas r = c.convert type schemas r := by
  -- the type is looked at for its engine only
  unfold convert compileTable
  rw [h]

theorem convert_nil (c : Compiler) (type type' : Option String) (r : Request) :
    c.convert type' [] r = c.convert type [] r := by
  unfold convert
  cases Sql.Query.parse r.sql <;> rfl

/-- Whatever is changed between the two readings, a request is compiled with the schema of the first
reading and with the type that has last been set. That is what it would be compiled to in any state
of the catalog in between which has that schema and a type of the same engine. It is what it would be
compiled to at once if no change sets the type of its model, or if the model has not been there. -/
theorem compileReading_after (c : Compiler) (catalog : Catalog) (changes : List CatalogChange)
    (r : Request) :
    c.compileReading catalog (catalog.after changes) r
        = c.convert (changes.foldl (CatalogChange.typeAfter r.modelId)
          (catalog.databaseType? r.modelId)) (catalog.schema? r.modelId).toList r
      ∧ (∀ before, before <+: changes →
        (catalog.after before).schema? r.modelId = catalog.schema? r.modelId →
        c.engineFor ((catalog.after before).databaseType? r.modelId)
          = c.engineFor ((catalog.after changes).databaseType? r.modelId) →
        c.compileReading catalog (catalog.after changes) r = c.compile (catalog.after before) r)
      ∧ ((∀ change ∈ changes, ¬ change.setsType r.modelId) →
        c.compileReading catalog (catalog.after changes) r = c.compile catalog r)
      ∧ (catalog.schema? r.modelId = none →
        c.compileReading catalog (catalog.after changes) r = c.compile catalog r) := by
  refine ⟨?_, fun before _ hschema hengine => ?_, fun hkept => ?_, fun hnone => ?_⟩
  · rw [compileReading, Catalog.databaseType?_after]
  · rw [compile, compileReading, compileReading, hschema]
    exact convert_congr hengine.symm
  · -- no change sets the type, so it is the one that there has been
    have htype : (catalog.after changes).databaseType? r.modelId
        = catalog.databaseType? r.modelId := by
      rw [Catalog.databaseType?_after]
      induction changes with
      | nil => rfl
      | cons change rest ih =>
        rw [List.foldl_cons, CatalogChange.typeAfter_of_not_setsType (hkept _ (.head _))]
        exact ih fun other hother => hkept other (.tail _ hother)
    rw [compile, compileReading, compileReading, htype]
  · rw [compile, compileReading, compileReading, hnone]
    exact convert_nil c _ _ r

/-- A model whose table may be in one database or in another one. -/
def movedModel (table : String) : Schema :=
  .ofNames 1 "t" "t" table

def movedRequest : Request :=
  ⟨1, "select year(1) from t", []⟩

/-- The catalog before the model is moved. -/
def movedCatalog : Catalog :=
  Catalog.empty.register (movedModel "a") (some "mysql")

def move : CatalogChange :=
  .register (movedModel "b") (some "clickhouse")

theorem sql_movedRequest :
    (standard.compile movedCatalog movedRequest).toOption.map Compiled.sql
        = some "SELECT YEAR(1) FROM (SELECT COUNT(1) AS t_internal_cnt FROM a) AS t LIMIT 1000"
      ∧ (standard.compileReading movedCatalog (movedCatalog.after [move]) movedRequest).toOption.map
          Compiled.sql
        = some "SELECT toYear(1) FROM (SELECT COUNT(1) AS t_internal_cnt FROM a) AS t LIMIT 1000"
      ∧ (standard.compile (movedCatalog.after [move]) movedRequest).toOption.map Compiled.sql
        = some "SELECT toYear(1) FROM (SELECT COUNT(1) AS t_internal_cnt FROM b) AS t LIMIT 1000" := by
  decide +kernel

/-- The table of the one database is queried in the words of the other one, which neither state of the
catalog would have led to. -/
theorem compileReading_ne_compile :
    standard.compileReading movedCatalog (movedCatalog.after [move]) movedRequest
        ≠ standard.compile movedCatalog movedRequest
      ∧ standard.compileReading movedCatalog (movedCatalog.after [move]) movedRequest
        ≠ standard.compile (movedCatalog.after [move]) movedRequest := by
  obtain ⟨hfirst, hmixed, hlast⟩ := sql_movedRequest
  constructor
  · intro heq
    rw [heq, hfirst] at hmixed
    revert hmixed
    decide
  · intro heq
    rw [heq, hlast] at hmixed
    revert hmixed
    decide

end Compiler

end MetricQuery
