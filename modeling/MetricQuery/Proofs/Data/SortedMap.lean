import MetricQuery.Data.SortedMap
import Mathlib.Data.List.Sort

/-!
# Sorted maps — a map is what it gives at each key

The entries of a map are the values at its keys. As they are listed by ascending key, two maps that
give the same at every key have the same entries.
-/

namespace MetricQuery.SortedMap

variable {κ α : Type} [Preorder κ]

theorem pairwise_keys (m : SortedMap κ α) : m.keys.Pairwise (· < ·) :=
  List.pairwise_map.2 m.ascending

theorem size_eq_length_keys (m : SortedMap κ α) : m.size = m.keys.length := by
  rw [size, keys, List.length_map]

variable [DecidableEq κ] {m m' : SortedMap κ α} {k : κ} {v : α}

/-- The value that is found at a key is that of the one entry there. -/
theorem find?_key_eq_some {κ α : Type} [DecidableEq κ] {entries : List (κ × α)} {k : κ} {v : α}
    (h : (entries.map Prod.fst).Nodup) :
    (entries.find? fun e => e.1 = k).map (·.2) = some v ↔ (k, v) ∈ entries := by
  have hkey : ∀ {e}, (entries.find? fun e => e.1 = k) = some e → e.1 = k := fun hfind => by
    simpa using List.find?_some hfind
  rw [Option.map_eq_some_iff]
  constructor
  · rintro ⟨e, hfind, rfl⟩
    rw [← hkey hfind]
    exact List.mem_of_find?_eq_some hfind
  · intro hmem
    cases hfind : entries.find? fun e => e.1 = k with
    | none => simpa using List.find?_eq_none.1 hfind _ hmem
    | some e =>
      have he : e = (k, v) :=
        List.inj_on_of_nodup_map h (List.mem_of_find?_eq_some hfind) hmem (hkey hfind)
      exact ⟨e, rfl, congrArg Prod.snd he⟩

theorem mem_entries_iff : (k, v) ∈ m.entries ↔ m.get? k = some v :=
  (find?_key_eq_some m.pairwise_keys.nodup).symm

theorem contains_eq_isSome_get? (m : SortedMap κ α) (k : κ) :
    m.contains k = (m.get? k).isSome := by
  rw [contains, get?, Option.isSome_map, List.isSome_find?]

theorem mem_keys_iff : k ∈ m.keys ↔ (m.get? k).isSome := by
  rw [keys, List.mem_map, Option.isSome_iff_exists]
  constructor
  · rintro ⟨e, he, rfl⟩
    exact ⟨e.2, mem_entries_iff.1 he⟩
  · rintro ⟨v, hv⟩
    exact ⟨(k, v), mem_entries_iff.2 hv, rfl⟩

theorem ext_get? (h : ∀ k, m.get? k = m'.get? k) : m = m' := by
  have hmem : ∀ e, e ∈ m.entries ↔ e ∈ m'.entries := fun e => by
    rw [mem_entries_iff, mem_entries_iff, h]
  have : Std.Irrefl fun a b : κ × α => a.1 < b.1 := ⟨fun a => lt_irrefl a.1⟩
  have : Std.Antisymm fun a b : κ × α => a.1 < b.1 := ⟨fun _ _ hlt hgt => (lt_asymm hlt hgt).elim⟩
  exact ext (m.ascending.eq_of_mem_iff m'.ascending hmem)

section Linear

variable {κ α : Type} [LT κ] [DecidableEq κ] [DecidableLT κ] [LE κ] [Std.LawfulOrderLT κ]
  {m : SortedMap κ α} {k : κ} {v : α} {entries : List (κ × α)}

theorem insertEntry_of_lt (h : ∀ e ∈ entries, e.1 < k) :
    insertEntry k v entries = entries ++ [(k, v)] := by
  induction entries with
  | nil => rfl
  | cons e rest ih =>
    have he := h e (.head _)
    have hne : k ≠ e.1 := by
      rintro rfl
      exact Std.lt_irrefl he
    rw [insertEntry, if_neg (Std.not_gt_of_lt he), if_neg hne, ih fun d hd => h d (.tail _ hd)]
    rfl

variable [Std.IsLinearOrder κ]

theorem entries_foldl_insert (h : (m.entries ++ entries).Pairwise fun a b => a.1 < b.1) :
    (entries.foldl (fun m e => m.insert e.1 e.2) m).entries = m.entries ++ entries := by
  induction entries generalizing m with
  | nil => exact (List.append_nil _).symm
  | cons e rest ih =>
    have hlast : (m.insert e.1 e.2).entries = m.entries ++ [e] :=
      insertEntry_of_lt fun d hd => (List.pairwise_append.1 h).2.2 d hd e (.head _)
    rw [List.append_cons, ← hlast] at h ⊢
    exact ih h

/-- A map is read from its entries. -/
theorem ofList_entries (m : SortedMap κ α) : ofList m.entries = m :=
  ext (entries_foldl_insert m.ascending)

end Linear

end MetricQuery.SortedMap
