import MetricQuery.Proofs.Compiler.CatalogChanges
import MetricQuery.Proofs.Data.SortedMap
import Mathlib.Data.List.Induction

/-!
# Catalog history — what a catalog holds follows from the changes that made it

The schema of a model is the one that the last change to the model gave it. The type of its database
is the one of its last registration, however many schemas are replaced later, unless the model has
been removed since. Changes to different models can be made in either order.
-/

namespace MetricQuery

/-! ## The last step that sets a value -/

section LastStep

variable {σ α : Type} {step : Option α → σ → Option α} {sets : σ → Prop} {value : σ → Option α}

theorem foldl_of_kept (hkeep : ∀ kept x, ¬ sets x → step kept x = kept) {xs : List σ}
    (h : ∀ x ∈ xs, ¬ sets x) (kept : Option α) : xs.foldl step kept = kept := by
  induction xs with
  | nil => rfl
  | cons x rest ih =>
    rw [List.foldl_cons, hkeep _ _ (h x (.head _))]
    exact ih fun later hlater => h later (.tail _ hlater)

theorem foldl_eq_some_iff (hset : ∀ kept x, sets x → step kept x = value x)
    (hkeep : ∀ kept x, ¬ sets x → step kept x = kept) {xs : List σ} {a : α} :
    xs.foldl step none = some a ↔ ∃ before x rest, xs = before ++ x :: rest
      ∧ sets x ∧ value x = some a ∧ ∀ later ∈ rest, ¬ sets later := by
  constructor
  · intro h
    -- from the end of the list, where the step that counts stands
    induction xs using List.reverseRecOn with
    | nil => cases h
    | append_singleton xs last ih =>
      rw [List.foldl_append, List.foldl_cons, List.foldl_nil] at h
      by_cases hlast : sets last
      · rw [hset _ _ hlast] at h
        exact ⟨xs, last, [], rfl, hlast, h, by simp⟩
      · rw [hkeep _ _ hlast] at h
        obtain ⟨before, x, rest, rfl, hx, hvalue, hrest⟩ := ih h
        refine ⟨before, x, rest ++ [last], by simp, hx, hvalue, fun later hlater => ?_⟩
        rcases List.mem_append.1 hlater with hlater | hlater
        · exact hrest later hlater
        · rwa [List.mem_singleton.1 hlater]
  · rintro ⟨before, x, rest, rfl, hx, hvalue, hrest⟩
    rw [List.foldl_append, List.foldl_cons, hset _ _ hx, foldl_of_kept hkeep hrest, hvalue]

end LastStep

namespace CatalogChange

/-- The id of the model that is changed. -/
def modelId : CatalogChange → Nat
  | register s _ => s.id
  | replace s => s.id
  | remove id => id

/-- The schema that the model has after the change. -/
def schema? : CatalogChange → Option Schema
  | register s _ => some s
  | replace s => some s
  | remove _ => none

/-- The type of its database that the model is registered with. -/
def type? : CatalogChange → Option String
  | register _ databaseType => databaseType
  | replace _ => none
  | remove _ => none

/-- The schema of any model after the change, given the one before. -/
def schemaAfter (id : Nat) (schema : Option Schema) (change : CatalogChange) : Option Schema :=
  if change.modelId = id then change.schema? else schema

/-- The catalog after the change, and what the change answers. A registration answers nothing. -/
def perform (catalog : Catalog) : CatalogChange → Catalog × Option Schema
  | register s databaseType => (catalog.register s databaseType, none)
  | replace s => catalog.exchange s
  | remove id => catalog.withdraw id

/-- The schema that the change takes the place of, if it answers one. -/
def answer (catalog : Catalog) : CatalogChange → Option Schema
  | register _ _ => none
  | replace s => catalog.schema? s.id
  | remove id => catalog.schema? id

end CatalogChange

namespace Catalog

/-- The catalog after changes that are made one after the other, and what each of them answers. -/
def performAll (catalog : Catalog) : List CatalogChange → Catalog × List (Option Schema)
  | [] => (catalog, [])
  | change :: rest =>
    let (changed, answer) := change.perform catalog
    let (last, answers) := changed.performAll rest
    (last, answer :: answers)

variable {catalog catalog' : Catalog}

theorem exchange_eq (catalog : Catalog) (s : Schema) :
    catalog.exchange s = (catalog.replace s, catalog.schema? s.id) := by
  unfold exchange replace register databaseType? schema?
  cases catalog.models.get? s.id <;> rfl

/-- A catalog is what it answers about each id. -/
theorem ext_lookups (hschema : ∀ id, catalog.schema? id = catalog'.schema? id)
    (htype : ∀ id, catalog.databaseType? id = catalog'.databaseType? id) : catalog = catalog' := by
  have hmodels : catalog.models = catalog'.models := SortedMap.ext_get? fun id => by
    have hs : (catalog.models.get? id).map _ = (catalog'.models.get? id).map _ := hschema id
    have ht : (catalog.models.get? id).bind _ = (catalog'.models.get? id).bind _ := htype id
    -- a schema is found exactly where there is a model, and with its type it is the whole model
    cases hm : catalog.models.get? id with
    | none =>
      rw [hm, Option.map_none, eq_comm, Option.map_eq_none_iff] at hs
      rw [hs]
    | some m =>
      rw [hm, Option.map_some, eq_comm, Option.map_eq_some_iff] at hs
      obtain ⟨m', hm', hs⟩ := hs
      rw [hm, hm', Option.bind_some, Option.bind_some] at ht
      rw [hm']
      cases m; cases m'; cases hs; cases ht
      rfl
  cases catalog; cases catalog'; cases hmodels
  rfl

end Catalog

/-! ## One change, and two -/

namespace CatalogChange

variable {id : Nat} {a b change : CatalogChange}

theorem perform_eq (catalog : Catalog) (change : CatalogChange) :
    change.perform catalog = (change.apply catalog, change.answer catalog) := by
  cases change with
  | register s type => rfl
  | replace s => exact catalog.exchange_eq s
  | remove id => rfl

theorem schema?_apply (catalog : Catalog) (change : CatalogChange) :
    (change.apply catalog).schema? id = change.schemaAfter id (catalog.schema? id) := by
  have hregister : ∀ s type, (catalog.register s type).schema? id
      = if s.id = id then some s else catalog.schema? id := by
    intro s type
    rw [Catalog.schema?, Catalog.register, SortedMap.get?_insert]
    split <;> rfl
  cases change with
  | register s type => exact hregister s type
  | replace s => exact hregister s _
  | remove other =>
    show (catalog.remove other).schema? id = if other = id then none else catalog.schema? id
    rw [Catalog.schema?, Catalog.remove, SortedMap.get?_erase]
    split <;> rfl

theorem typeAfter_of_setsType (h : change.setsType id) (type : Option String) :
    change.typeAfter id type = change.type? := by
  cases change with
  | register s own => exact if_pos h
  | replace s => exact h.elim
  | remove other => exact if_pos h

theorem modelId_of_setsType (h : change.setsType id) : change.modelId = id := by
  cases change with
  | register s own => exact h
  | replace s => exact h.elim
  | remove other => exact h

theorem schema?_apply_of_ne (h : change.modelId ≠ id) (catalog : Catalog) :
    (change.apply catalog).schema? id = catalog.schema? id := by
  rw [schema?_apply, schemaAfter, if_neg h]

theorem databaseType?_apply_of_ne (h : change.modelId ≠ id) (catalog : Catalog) :
    (change.apply catalog).databaseType? id = catalog.databaseType? id := by
  rw [databaseType?_apply]
  exact typeAfter_of_not_setsType (fun hsets => h (modelId_of_setsType hsets)) _

theorem answer_apply_of_ne (h : change.modelId ≠ b.modelId) (catalog : Catalog) :
    b.answer (change.apply catalog) = b.answer catalog := by
  cases b with
  | register s type => rfl
  | replace s => exact schema?_apply_of_ne h catalog
  | remove other => exact schema?_apply_of_ne h catalog

theorem apply_comm (h : a.modelId ≠ b.modelId) (catalog : Catalog) :
    b.apply (a.apply catalog) = a.apply (b.apply catalog) := by
  have hschema : ∀ {id} {x y : CatalogChange}, x.modelId ≠ id →
      (y.apply (x.apply catalog)).schema? id = (x.apply (y.apply catalog)).schema? id := by
    intro id x y hx
    rw [schema?_apply_of_ne hx, schema?_apply _ y, schema?_apply_of_ne hx, schema?_apply]
  have htype : ∀ {id} {x y : CatalogChange}, x.modelId ≠ id →
      (y.apply (x.apply catalog)).databaseType? id = (x.apply (y.apply catalog)).databaseType? id := by
    intro id x y hx
    rw [databaseType?_apply_of_ne hx, databaseType?_apply _ y, databaseType?_apply_of_ne hx,
      databaseType?_apply]
  -- at each id one of the two changes has no effect
  have hone : ∀ {id}, a.modelId = id → b.modelId ≠ id := fun ha hb => h (ha.trans hb.symm)
  apply Catalog.ext_lookups
  · intro id
    by_cases ha : a.modelId = id
    · exact (hschema (hone ha)).symm
    · exact hschema ha
  · intro id
    by_cases ha : a.modelId = id
    · exact (htype (hone ha)).symm
    · exact htype ha

end CatalogChange

/-! ## All changes -/

namespace Catalog

variable {id : Nat} {changes : List CatalogChange} {change : CatalogChange}

theorem schema?_after (catalog : Catalog) (changes : List CatalogChange) :
    (catalog.after changes).schema? id
      = changes.foldl (CatalogChange.schemaAfter id) (catalog.schema? id) :=
  (List.foldl_hom (fun c => schema? c id) fun c change => (change.schema?_apply c).symm).symm

theorem schema?_after_empty {s : Schema} :
    (empty.after changes).schema? id = some s ↔ ∃ before change rest,
      changes = before ++ change :: rest ∧ change.modelId = id ∧ change.schema? = some s
        ∧ ∀ later ∈ rest, later.modelId ≠ id := by
  have hset : ∀ kept change, CatalogChange.modelId change = id →
      change.schemaAfter id kept = change.schema? := fun _ _ h => if_pos h
  have hkeep : ∀ kept change, ¬ CatalogChange.modelId change = id →
      change.schemaAfter id kept = kept := fun _ _ h => if_neg h
  rw [schema?_after]
  exact foldl_eq_some_iff hset hkeep

theorem databaseType?_after_empty {type : String} :
    (empty.after changes).databaseType? id = some type ↔ ∃ before s rest,
      changes = before ++ .register s (some type) :: rest ∧ s.id = id
        ∧ ∀ later ∈ rest, ¬ later.setsType id := by
  rw [databaseType?_after]
  refine (foldl_eq_some_iff (fun _ _ h => CatalogChange.typeAfter_of_setsType h _)
    (fun _ _ h => CatalogChange.typeAfter_of_not_setsType h _)).trans ?_
  constructor
  · rintro ⟨before, change, rest, heq, hsets, htype, hrest⟩
    cases change with
    | register s own => cases htype; exact ⟨before, s, rest, heq, hsets, hrest⟩
    | replace s => cases htype
    | remove other => cases htype
  · rintro ⟨before, s, rest, heq, hid, hrest⟩
    exact ⟨before, _, rest, heq, hid, rfl, hrest⟩

theorem fst_performAll (catalog : Catalog) (changes : List CatalogChange) :
    (catalog.performAll changes).1 = catalog.after changes := by
  induction changes generalizing catalog with
  | nil => rfl
  | cons change rest ih =>
    show ((change.perform catalog).1.performAll rest).1 = (change.apply catalog).after rest
    rw [ih, CatalogChange.perform_eq]

theorem length_performAll (catalog : Catalog) (changes : List CatalogChange) :
    (catalog.performAll changes).2.length = changes.length := by
  induction changes generalizing catalog with
  | nil => rfl
  | cons change rest ih => exact congrArg (· + 1) (ih _)

theorem getElem?_performAll (catalog : Catalog) {changes : List CatalogChange} {i : Nat}
    (h : changes[i]? = some change) :
    (catalog.performAll changes).2[i]?
      = some (change.answer (catalog.performAll (changes.take i)).1) := by
  induction changes generalizing catalog i with
  | nil => cases h
  | cons first rest ih =>
    cases i with
    | zero =>
      cases h
      show some (change.perform catalog).2 = some (change.answer catalog)
      rw [CatalogChange.perform_eq]
    | succ i => exact ih _ h

theorem performAll_swap {a b : CatalogChange} (h : a.modelId ≠ b.modelId) (catalog : Catalog) :
    catalog.performAll [b, a]
      = ((catalog.performAll [a, b]).1, (catalog.performAll [a, b]).2.reverse) := by
  have hpair : ∀ x y : CatalogChange, catalog.performAll [x, y]
      = (y.apply (x.apply catalog), [x.answer catalog, y.answer (x.apply catalog)]) := by
    intro x y
    simp only [performAll, CatalogChange.perform_eq]
  rw [hpair, hpair, CatalogChange.apply_comm h, CatalogChange.answer_apply_of_ne h,
    CatalogChange.answer_apply_of_ne h.symm]
  rfl

/-- A catalog that has been empty holds the schema that the last change of a model gave it, and the
type of the model's last registration that is not followed by its removal. What is replaced or removed
answers the schema of the catalog right before it. The ids are those of the models that have a schema,
ascending, and changes of different models can swap their places. -/
theorem performAll_empty (changes : List CatalogChange) :
    let catalog := (empty.performAll changes).1
    let answers := (empty.performAll changes).2
    (∀ id s, catalog.schema? id = some s ↔ ∃ before change rest,
        changes = before ++ change :: rest ∧ change.modelId = id ∧ change.schema? = some s
          ∧ ∀ later ∈ rest, later.modelId ≠ id)
      ∧ (∀ id type, catalog.databaseType? id = some type ↔ ∃ before s rest,
        changes = before ++ .register s (some type) :: rest ∧ s.id = id
          ∧ ∀ later ∈ rest, ¬ later.setsType id)
      ∧ answers.length = changes.length
      ∧ (∀ i s, changes[i]? = some (.replace s) →
        answers[i]? = some ((empty.performAll (changes.take i)).1.schema? s.id))
      ∧ (∀ i id, changes[i]? = some (.remove id) →
        answers[i]? = some ((empty.performAll (changes.take i)).1.schema? id))
      ∧ catalog.ids.Pairwise (· < ·)
      ∧ (∀ id, id ∈ catalog.ids ↔ (catalog.schema? id).isSome)
      ∧ catalog.size = catalog.ids.length
      ∧ ∀ (c : Catalog) (a b : CatalogChange), a.modelId ≠ b.modelId →
        c.performAll [b, a] = ((c.performAll [a, b]).1, (c.performAll [a, b]).2.reverse) := by
  intro catalog answers
  have hafter : catalog = empty.after changes := fst_performAll empty changes
  rw [hafter]
  -- the catalog is known by its lookups, and the answers by the catalog before each change
  refine ⟨fun _ _ => schema?_after_empty, fun _ _ => databaseType?_after_empty,
    length_performAll empty changes, fun i s h => getElem?_performAll empty h,
    fun i id h => getElem?_performAll empty h, SortedMap.pairwise_keys _, fun id => ?_,
    SortedMap.size_eq_length_keys _, fun c a b h => performAll_swap h c⟩
  rw [ids, SortedMap.mem_keys_iff, schema?, Option.isSome_map]

/-- A model that comes back by a replacement has lost its type. -/
example (s : Schema) :
    let catalog := (empty.performAll [.register s (some "mysql"), .remove s.id, .replace s]).1
    catalog.databaseType? s.id = none ∧ catalog.schema? s.id = some s := by
  simp [performAll, CatalogChange.perform_eq, CatalogChange.databaseType?_apply,
    CatalogChange.schema?_apply, CatalogChange.typeAfter, CatalogChange.schemaAfter,
    CatalogChange.modelId, CatalogChange.schema?]

end Catalog

end MetricQuery
