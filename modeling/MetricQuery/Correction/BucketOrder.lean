import MetricQuery.Text.Units16

/-!
# Bucket order — the order in which a hash table lists its names

A name's hash is taken over its UTF-16 units and picks one of the table's slots, whose number is a
power of two. The table lists its slots in ascending order and the names of one slot in the order
in which they came.
-/

namespace MetricQuery.Correction

open MetricQuery.Text

/-- The hash of a name: the polynomial in 31 over its units, in 32 bits. -/
def nameHash (name : String) : UInt32 :=
  (units16 name).foldl (fun h unit => h * 31 + UInt32.ofNat unit) 0

/-- The slot of a name in a table of `slots` slots; the upper half of the hash is mixed into the
lower one. -/
def slotOf (slots : Nat) (name : String) : Nat :=
  let h := nameHash name
  (h ^^^ (h >>> 16)).toNat % slots

/-- The least number of slots, from `slots` on by doubling, of which `count` names fill at most
three quarters. -/
def slotsFrom (count slots : Nat) : Nat :=
  if slots * 3 < count * 4 ∧ 0 < slots then slotsFrom count (slots * 2) else slots
termination_by count * 4 - slots * 3

/-- The number of slots of a table for `count` names. -/
def slotsFor (count : Nat) : Nat :=
  slotsFrom count 16

/-- The elements in the order in which a table of `slots` slots lists their names. -/
def inSlots {α : Type} (name : α → String) (slots : Nat) (xs : List α) : List α :=
  (List.range slots).flatMap fun slot => xs.filter fun x => slotOf slots (name x) == slot

/-- The elements in the order in which a table for `count` names lists their names. -/
def bucketOrder {α : Type} (name : α → String) (count : Nat) (xs : List α) : List α :=
  inSlots name (slotsFor count) xs

theorem slotsFrom_pos {count slots : Nat} (h : 0 < slots) : 0 < slotsFrom count slots := by
  fun_induction slotsFrom count slots with
  | case1 slots hlt ih => exact ih (by omega)
  | case2 slots _ => exact h

theorem slotsFor_pos (count : Nat) : 0 < slotsFor count :=
  slotsFrom_pos (by decide)

theorem slotOf_lt {slots : Nat} (h : 0 < slots) (name : String) : slotOf slots name < slots :=
  Nat.mod_lt _ h

theorem mem_bucketOrder {α : Type} {name : α → String} {count : Nat} {xs : List α} {x : α} :
    x ∈ bucketOrder name count xs ↔ x ∈ xs := by
  simp only [bucketOrder, inSlots, List.mem_flatMap, List.mem_range, List.mem_filter]
  constructor
  · rintro ⟨_, _, hx, _⟩
    exact hx
  · intro hx
    exact ⟨_, slotOf_lt (slotsFor_pos count) (name x), hx, by simp⟩

end MetricQuery.Correction
