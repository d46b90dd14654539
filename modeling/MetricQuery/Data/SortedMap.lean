/-!
# Sorted maps — finite maps whose entries are listed by ascending key

A map is the list of its entries. Each key occurs once and the keys ascend, so that equal maps are
equal lists.
-/

namespace MetricQuery

/-- A finite map, as the list of its entries by ascending key. -/
structure SortedMap (κ α : Type) [LT κ] where
  entries : List (κ × α)
  ascending : entries.Pairwise fun a b => a.1 < b.1

namespace SortedMap

variable {κ α : Type} [LT κ]

theorem ext {m m' : SortedMap κ α} (h : m.entries = m'.entries) : m = m' := by
  cases m; cases m'; cases h; rfl

variable [DecidableEq κ]

/-- The map without entries. -/
def empty : SortedMap κ α :=
  ⟨[], .nil⟩

/-- The value at a key. -/
def get? (m : SortedMap κ α) (k : κ) : Option α :=
  (m.entries.find? fun e => e.1 = k).map (·.2)

def contains (m : SortedMap κ α) (k : κ) : Bool :=
  m.entries.any fun e => e.1 = k

/-- The keys, ascending. -/
def keys (m : SortedMap κ α) : List κ :=
  m.entries.map (·.1)

def size (m : SortedMap κ α) : Nat :=
  m.entries.length

def isEmpty (m : SortedMap κ α) : Bool :=
  m.entries.isEmpty

/-- The map without the entry at a key. -/
def erase (m : SortedMap κ α) (k : κ) : SortedMap κ α :=
  ⟨m.entries.filter fun e => e.1 ≠ k, m.ascending.filter _⟩

theorem get?_empty (k : κ) : (empty : SortedMap κ α).get? k = none := rfl

theorem get?_erase (m : SortedMap κ α) (k k' : κ) :
    (m.erase k).get? k' = if k = k' then none else m.get? k' := by
  unfold erase get?
  rw [List.find?_filter]
  by_cases h : k = k'
  · subst h
    simp
  · rw [if_neg h]
    congr 2
    funext e
    by_cases he : e.1 = k'
    · simpa [he] using fun hk : k' = k => h hk.symm
    · simp [he]

section Linear

variable [DecidableLT κ]

/-- The entries with the value at a key set. -/
def insertEntry (k : κ) (v : α) : List (κ × α) → List (κ × α)
  | [] => [(k, v)]
  | e :: rest =>
    if k < e.1 then (k, v) :: e :: rest
    else if k = e.1 then (k, v) :: rest
    else e :: insertEntry k v rest

theorem mem_insertEntry {k : κ} {v : α} {entries : List (κ × α)} {e : κ × α}
    (h : e ∈ insertEntry k v entries) : e = (k, v) ∨ e ∈ entries := by
  induction entries with
  | nil => simpa [insertEntry] using h
  | cons d rest ih => grind [insertEntry]

variable [LE κ] [Std.IsLinearOrder κ] [Std.LawfulOrderLT κ]

theorem ascending_insertEntry (k : κ) (v : α) {entries : List (κ × α)}
    (h : entries.Pairwise fun a b => a.1 < b.1) :
    (insertEntry k v entries).Pairwise fun a b => a.1 < b.1 := by
  induction entries with
  | nil => exact List.pairwise_singleton _ _
  | cons e rest ih =>
    obtain ⟨he, hrest⟩ := List.pairwise_cons.1 h
    unfold insertEntry
    split
    · rename_i hlt
      refine List.pairwise_cons.2 ⟨fun d hd => ?_, h⟩
      rcases List.mem_cons.1 hd with rfl | hd
      · exact hlt
      · exact Std.lt_trans hlt (he d hd)
    · rename_i hnot
      split
      · rename_i heq
        exact List.pairwise_cons.2 ⟨fun d hd => by simpa [heq] using he d hd, hrest⟩
      · rename_i hne
        refine List.pairwise_cons.2 ⟨fun d hd => ?_, ih hrest⟩
        rcases mem_insertEntry hd with rfl | hd
        · exact Std.lt_of_le_of_ne (Std.not_lt.1 hnot) fun hek => hne hek.symm
        · exact he d hd

/-- The map with the value at a key set. -/
def insert (m : SortedMap κ α) (k : κ) (v : α) : SortedMap κ α :=
  ⟨insertEntry k v m.entries, ascending_insertEntry k v m.ascending⟩

/-- The map with these entries, of which the later ones win. -/
def ofList (entries : List (κ × α)) : SortedMap κ α :=
  entries.foldl (fun m e => m.insert e.1 e.2) empty

theorem find?_insertEntry (k : κ) (v : α) (k' : κ) (entries : List (κ × α)) :
    ((insertEntry k v entries).find? fun e => e.1 = k').map (·.2)
      = if k = k' then some v else (entries.find? fun e => e.1 = k').map (·.2) := by
  induction entries with
  | nil => by_cases h : k = k' <;> simp [insertEntry, h]
  | cons e rest ih =>
    by_cases h : k = k' <;> by_cases he : e.1 = k' <;> grind [insertEntry, Std.lt_irrefl]

theorem get?_insert (m : SortedMap κ α) (k : κ) (v : α) (k' : κ) :
    (m.insert k v).get? k' = if k = k' then some v else m.get? k' :=
  find?_insertEntry k v k' m.entries

end Linear

end SortedMap

end MetricQuery
