import Mathlib.Data.List.Induction
import MetricQuery.Proofs.Config.CatalogText

/-!
# Catalog models — a list of models is a catalog, or has an id twice

Models make a catalog if no two of them have the same id. The catalog holds these models and no
others, in whatever order they are listed. Otherwise there is an error, and it names the id of the
first model in the list whose id an earlier model has.
-/

namespace MetricQuery.Catalog

variable {c : Catalog} {models front back : List CatalogModel} {m : CatalogModel}

/-! ## The first id that comes again -/

/-- Whether an id is found at a place of the list and at an earlier one, while none before that
place comes a second time. -/
def ComesAgainAt (ids : List Nat) (i : Nat) (id : Nat) : Prop :=
  ids[i]? = some id ∧ id ∈ ids.take i ∧ ∀ j < i, ∀ own, ids[j]? = some own → own ∉ ids.take j

theorem exists_comesAgainAt {ids : List Nat} (h : ¬ ids.Nodup) :
    ∃ i id, ComesAgainAt ids i id := by
  -- from the end of the list, since an id that comes again in front of it comes earlier
  induction ids using List.reverseRecOn with
  | nil => exact absurd List.nodup_nil h
  | append_singleton ids last ih =>
    by_cases hids : ids.Nodup
    · have hlast : last ∈ ids := by
        by_contra hnew
        exact h (List.nodup_append.2 ⟨hids, List.nodup_singleton last, fun id hid own hown heq =>
          hnew (by rwa [← List.mem_singleton.1 hown, ← heq])⟩)
      refine ⟨ids.length, last, List.getElem?_concat_length, ?_, fun j hj own hown hmem => ?_⟩
      · rwa [List.take_left]
      · rw [List.getElem?_append_left hj] at hown
        rw [List.take_append_of_le_length (by omega)] at hmem
        obtain ⟨hlength, rfl⟩ := List.getElem?_eq_some_iff.1 hown
        obtain ⟨k, hk, hsame⟩ := List.mem_take_iff_getElem.1 hmem
        have hjk : k = j := (List.Nodup.getElem_inj_iff hids).1 hsame
        omega
    · obtain ⟨i, id, hi, hmem, hfirst⟩ := ih hids
      have hlt : i < ids.length := (List.getElem?_eq_some_iff.1 hi).1
      refine ⟨i, id, ?_, ?_, fun j hj own hown => ?_⟩
      · rwa [List.getElem?_append_left hlt]
      · rwa [List.take_append_of_le_length (by omega)]
      · rw [List.getElem?_append_left (by omega)] at hown
        rw [List.take_append_of_le_length (by omega)]
        exact hfirst j hj own hown

/-- In front of the first id that comes again all ids are different. -/
theorem ComesAgainAt.nodup_take {ids : List Nat} {i id : Nat} (h : ComesAgainAt ids i id) :
    (ids.take i).Nodup := by
  by_contra hno
  obtain ⟨j, own, hj, hmem, -⟩ := exists_comesAgainAt hno
  obtain ⟨hlength, -⟩ := List.getElem?_eq_some_iff.1 hj
  have hlt : j < i := by
    rw [List.length_take] at hlength
    omega
  rw [List.getElem?_take_of_lt hlt] at hj
  rw [List.take_take, Nat.min_eq_left (by omega)] at hmem
  exact h.2.2 j hlt own hj hmem

/-! ## Registering one model after the other -/

theorem registerNew_append (c : Catalog) (front back : List CatalogModel) :
    c.registerNew (front ++ back) = (c.registerNew front).bind fun c' => c'.registerNew back := by
  induction front generalizing c with
  | nil => rfl
  | cons m front ih =>
    show (if c.contains m.schema.id then _ else _)
      = Except.bind (if c.contains m.schema.id then _ else _) _
    by_cases hm : c.contains m.schema.id = true
    · rw [if_pos hm, if_pos hm]
      rfl
    · rw [if_neg hm, if_neg hm]
      exact ih _

/-- Whether the catalog holds these models and no others. -/
def Holds (c : Catalog) (models : List CatalogModel) : Prop :=
  ∀ id m, c.models.get? id = some m ↔ m ∈ models ∧ m.schema.id = id

theorem Holds.contains_iff (h : c.Holds models) (id : Nat) :
    c.contains id = true ↔ ∃ m ∈ models, m.schema.id = id := by
  rw [contains, SortedMap.contains_eq_isSome_get?, Option.isSome_iff_exists]
  exact exists_congr fun m => h id m

theorem Holds.eq {c' : Catalog} (h : c.Holds models) (h' : c'.Holds models) : c' = c := by
  have hmodels : c'.models = c.models :=
    SortedMap.ext_get? fun id => Option.ext fun m => (h' id m).trans (h id m).symm
  cases c
  cases c'
  exact congrArg Catalog.mk hmodels

theorem ofModels_of_nodup (hids : (models.map fun m => m.schema.id).Nodup) :
    ∃ c, ofModels models = .ok c ∧ c.Holds models := by
  obtain ⟨c, hregister, hmodels, hrest⟩ :=
    registerNew_of_nodup (c := empty) hids fun m _ => SortedMap.get?_empty m.schema.id
  refine ⟨c, hregister, fun id m => ⟨fun hget => ?_, ?_⟩⟩
  · by_cases hid : ∃ n ∈ models, n.schema.id = id
    · obtain ⟨n, hn, rfl⟩ := hid
      rw [hmodels n hn] at hget
      obtain rfl := Option.some.inj hget
      exact ⟨hn, rfl⟩
    · have hnone : c.models.get? id = none := hrest id fun n hn hsame => hid ⟨n, hn, hsame⟩
      rw [hnone] at hget
      cases hget
  · rintro ⟨hm, rfl⟩
    exact hmodels m hm

/-- A model whose id has been registered ends the work. -/
theorem ofModels_of_registered (hfront : (front.map fun m => m.schema.id).Nodup)
    (hm : ∃ n ∈ front, n.schema.id = m.schema.id) :
    ofModels (front ++ m :: back) = .error ⟨m.schema.id⟩ := by
  obtain ⟨c, hregister, hholds⟩ := ofModels_of_nodup hfront
  have hcontains : c.contains m.schema.id = true := (hholds.contains_iff _).2 hm
  rw [ofModels] at hregister ⊢
  rw [registerNew_append, hregister]
  exact if_pos hcontains

theorem ofModels_of_comesAgainAt {i id : Nat}
    (h : ComesAgainAt (models.map fun m => m.schema.id) i id) :
    ofModels models = .error ⟨id⟩ := by
  have hfront : ((models.take i).map fun m => m.schema.id).Nodup := by
    rw [List.map_take]
    exact h.nodup_take
  obtain ⟨hi, hmem, -⟩ := h
  rw [List.getElem?_map] at hi
  obtain ⟨m, hm, rfl⟩ := Option.map_eq_some_iff.1 hi
  rw [← List.map_take] at hmem
  obtain ⟨hlength, rfl⟩ := List.getElem?_eq_some_iff.1 hm
  -- the models in front are registered, and the next one is refused
  have hsplit : models.take i ++ models[i] :: models.drop (i + 1) = models := by
    rw [← List.drop_eq_getElem_cons hlength, List.take_append_drop]
  have herror : ofModels (models.take i ++ models[i] :: models.drop (i + 1))
      = .error ⟨models[i].schema.id⟩ := ofModels_of_registered hfront (List.mem_map.1 hmem)
  rwa [hsplit] at herror

/-- Models of which two have one id are no catalog. -/
theorem exists_ofModels_eq_error (hids : ¬ (models.map fun m => m.schema.id).Nodup) :
    ∃ i id, ComesAgainAt (models.map fun m => m.schema.id) i id
      ∧ ofModels models = .error ⟨id⟩ := by
  obtain ⟨i, id, h⟩ := exists_comesAgainAt hids
  exact ⟨i, id, h, ofModels_of_comesAgainAt h⟩

/-! ## What a list of models is -/

theorem nodup_of_ofModels (h : ofModels models = .ok c) :
    (models.map fun m => m.schema.id).Nodup := by
  by_contra hids
  obtain ⟨i, id, -, herror⟩ := exists_ofModels_eq_error hids
  rw [h] at herror
  cases herror

theorem holds_of_ofModels (h : ofModels models = .ok c) : c.Holds models := by
  obtain ⟨own, hown, hholds⟩ := ofModels_of_nodup (nodup_of_ofModels h)
  obtain rfl : own = c := Except.ok.inj (hown.symm.trans h)
  exact hholds

theorem ofModels_eq_error_iff {id : Nat} : ofModels models = .error ⟨id⟩
    ↔ ∃ i, ComesAgainAt (models.map fun m => m.schema.id) i id := by
  constructor
  · intro herror
    have hids : ¬ (models.map fun m => m.schema.id).Nodup := by
      intro hids
      obtain ⟨c, hc, -⟩ := ofModels_of_nodup hids
      rw [hc] at herror
      cases herror
    obtain ⟨i, own, hagain, hown⟩ := exists_ofModels_eq_error hids
    rw [hown] at herror
    cases herror
    exact ⟨i, hagain⟩
  · rintro ⟨i, hagain⟩
    exact ofModels_of_comesAgainAt hagain

/-- The order in which models are listed makes no difference. -/
theorem ofModels_of_perm {models' : List CatalogModel} (h : ofModels models = .ok c)
    (horder : models'.Perm models) : ofModels models' = .ok c := by
  have hids : (models'.map fun m => m.schema.id).Nodup :=
    (horder.map _).nodup_iff.2 (nodup_of_ofModels h)
  obtain ⟨c', hc', hholds⟩ := ofModels_of_nodup hids
  have hsame : c'.Holds models := fun id m => by rw [hholds id m, horder.mem_iff]
  rw [hc', (holds_of_ofModels h).eq hsame]

/-- Models are a catalog exactly if they have different ids. The catalog holds each of them, with
its schema and the type of its database, and no other model, and it is the same in whatever order
they are listed. If they are none, the error names the id at the first place where an id comes
again. -/
theorem ofModels_spec (models : List CatalogModel) :
    ((∃ c, ofModels models = .ok c) ↔ (models.map fun m => m.schema.id).Nodup)
      ∧ (∀ c, ofModels models = .ok c →
        (∀ m ∈ models, c.schema? m.schema.id = some m.schema
          ∧ c.databaseType? m.schema.id = m.databaseType)
        ∧ (∀ id, c.contains id = true ↔ ∃ m ∈ models, m.schema.id = id)
        ∧ ∀ models', models'.Perm models → ofModels models' = .ok c)
      ∧ ∀ id, ofModels models = .error ⟨id⟩
        ↔ ∃ i, ComesAgainAt (models.map fun m => m.schema.id) i id := by
  refine ⟨⟨fun ⟨c, hc⟩ => nodup_of_ofModels hc, fun hids => ?_⟩, fun c hc => ?_,
    fun id => ofModels_eq_error_iff⟩
  · obtain ⟨c, hc, -⟩ := ofModels_of_nodup hids
    exact ⟨c, hc⟩
  · have hholds := holds_of_ofModels hc
    refine ⟨fun m hm => ?_, hholds.contains_iff, fun models' horder => ofModels_of_perm hc horder⟩
    have hget : c.models.get? m.schema.id = some m := (hholds _ _).2 ⟨hm, rfl⟩
    rw [schema?, databaseType?, hget]
    exact ⟨rfl, rfl⟩

end MetricQuery.Catalog
