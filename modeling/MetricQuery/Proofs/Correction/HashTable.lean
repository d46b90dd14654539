import Mathlib.Algebra.Group.Nat.Defs
import Mathlib.Data.List.Induction
import Mathlib.Data.List.Nodup
import Mathlib.Data.List.Perm.Basic
import MetricQuery.Correction.AppendedColumns

/-!
# Hash tables — bucket order is what a growing table lists

A hash table chains the elements of a slot. It starts with sixteen slots, appends each element to
the chain of its slot, and is doubled when more than three quarters as many elements as slots are in
it: each chain is split in order, and what is split off goes as many slots further on as there were.
The bucket order of a list is the order in which such a table lists its elements once it has been
filled with them one by one, and elements that are taken out again leave a gap but move nothing. So
the order in which columns are appended is that of a table of all columns that are referred to.
-/

namespace MetricQuery.Correction

open MetricQuery.Text MetricQuery.Sql

/-! ## Slots -/

/-- The hash of a name as a number: a polynomial in 31 over its units modulo the thirty-second power
of two. -/
def hashValue (name : String) : Nat :=
  (units16 name).foldl (fun h unit => (h * 31 + unit) % 2 ^ 32) 0

theorem toNat_nameHash (name : String) : (nameHash name).toNat = hashValue name := by
  suffices hfold : ∀ (units : List Nat) (h : UInt32),
      (units.foldl (fun h unit => h * 31 + UInt32.ofNat unit) h).toNat
        = units.foldl (fun h unit => (h * 31 + unit) % 2 ^ 32) h.toNat from hfold _ 0
  intro units
  induction units with
  | nil => exact fun _ => rfl
  | cons unit units ih =>
    intro h
    rw [List.foldl_cons, List.foldl_cons, ih]
    congr 1
    rw [UInt32.toNat_add, UInt32.toNat_mul, UInt32.toNat_ofNat', Nat.add_mod]
    simp [Nat.add_mod, Nat.mul_mod]

/-- The upper half of the hash is mixed into the lower one, and the slots are counted round. -/
theorem slotOf_eq (slots : Nat) (name : String) :
    slotOf slots name = (hashValue name ^^^ (hashValue name >>> 16)) % slots := by
  show (nameHash name ^^^ (nameHash name >>> 16)).toNat % slots = _
  rw [UInt32.toNat_xor, UInt32.toNat_shiftRight, toNat_nameHash]
  rfl

/-- In a table twice as large a name has its slot, or one as many slots further on as there were. -/
theorem slotOf_mul_two (slots : Nat) (name : String) :
    slotOf (slots * 2) name = slotOf slots name
      ∨ slotOf (slots * 2) name = slotOf slots name + slots := by
  rw [slotOf_eq, slotOf_eq, Nat.mod_mul]
  have hbit := Nat.mod_two_eq_zero_or_one ((hashValue name ^^^ (hashValue name >>> 16)) / slots)
  rcases hbit with h | h
  · left
    rw [h, Nat.mul_zero, Nat.add_zero]
  · right
    rw [h, Nat.mul_one]

/-! ## The number of slots -/

/-- Slots are doubled until they are enough and not any more. -/
theorem exists_slotsFrom_eq {count slots : Nat} (h : 0 < slots) :
    ∃ k, slotsFrom count slots = slots * 2 ^ k ∧ count * 4 ≤ slotsFrom count slots * 3
      ∧ ∀ j < k, slots * 2 ^ j * 3 < count * 4 := by
  fun_induction slotsFrom count slots with
  | case1 slots hgrow ih =>
    obtain ⟨k, hslots, henough, hbefore⟩ := ih (by omega)
    refine ⟨k + 1, ?_, henough, fun j hj => ?_⟩
    · rw [hslots, Nat.pow_succ, Nat.mul_assoc, Nat.mul_comm 2]
    · -- the first doubling is the one that the table has grown by here
      cases j with
      | zero =>
        rw [Nat.pow_zero, Nat.mul_one]
        exact hgrow.1
      | succ j =>
        rw [Nat.pow_succ, Nat.mul_comm _ 2, ← Nat.mul_assoc]
        exact hbefore j (by omega)
  | case2 slots hstop => exact ⟨0, by rw [Nat.pow_zero, Nat.mul_one], by omega, by omega⟩

theorem exists_slotsFor_eq (count : Nat) :
    ∃ k, slotsFor count = 16 * 2 ^ k ∧ count * 4 ≤ slotsFor count * 3
      ∧ ∀ j < k, 16 * 2 ^ j * 3 < count * 4 :=
  exists_slotsFrom_eq (by decide)

/-- Slots for more elements are found from those for fewer. -/
theorem slotsFrom_slotsFrom {count more slots : Nat} (h : count ≤ more) :
    slotsFrom more (slotsFrom count slots) = slotsFrom more slots := by
  fun_induction slotsFrom count slots with
  | case1 slots hgrow ih =>
    rw [ih, slotsFrom.eq_def more slots, if_pos ⟨by omega, hgrow.2⟩]
  | case2 slots hstop => rfl

/-- For one element more the slots are doubled once or not at all. -/
theorem slotsFor_succ (count : Nat) : slotsFor (count + 1)
    = if slotsFor count * 3 < (count + 1) * 4 then slotsFor count * 2 else slotsFor count := by
  have hpos := slotsFor_pos count
  obtain ⟨-, -, henough, -⟩ := exists_slotsFor_eq count
  rw [slotsFor, ← slotsFrom_slotsFrom (Nat.le_succ count)]
  show slotsFrom (count + 1) (slotsFor count) = _
  rw [slotsFrom.eq_def]
  by_cases hgrow : slotsFor count * 3 < (count + 1) * 4
  · rw [if_pos ⟨hgrow, hpos⟩, if_pos hgrow, slotsFrom.eq_def, if_neg (by omega)]
  · rw [if_neg fun h => hgrow h.1, if_neg hgrow]

/-! ## Elements by their slots -/

section

variable {α : Type} (name : α → String) {n : Nat}

theorem inSlots_singleton (h : 0 < n) (x : α) : inSlots name n [x] = [x] := by
  have hslot : ∀ slot, ([x].filter fun y => slotOf n (name y) == slot)
      = if slot = slotOf n (name x) then [x] else [] := by
    intro slot
    by_cases heq : slot = slotOf n (name x)
    · simp [heq]
    · simp [heq, Ne.symm heq]
  have hcount : (List.range n).count (slotOf n (name x)) = 1 :=
    List.count_eq_one_of_mem List.nodup_range (List.mem_range.2 (slotOf_lt h (name x)))
  simp only [inSlots, hslot]
  generalize slotOf n (name x) = own at hcount ⊢
  generalize List.range n = all at hcount
  -- nothing stands in another slot than the element's own
  have hown : ∀ all : List Nat, (all.flatMap fun slot => if slot = own then [x] else [])
      = List.replicate (all.count own) x := by
    intro all
    induction all with
    | nil => rfl
    | cons slot all ih =>
      rw [List.flatMap_cons, ih, List.count_cons]
      by_cases heq : slot = own
      · simp [heq, List.replicate_succ]
      · simp [heq]
  rw [hown, hcount]
  rfl

/-- By their slots there are the same elements. -/
theorem perm_inSlots (h : 0 < n) (xs : List α) : (inSlots name n xs).Perm xs := by
  induction xs with
  | nil => simp [inSlots]
  | cons x xs ih =>
    -- the slots of `x :: xs` are those of `[x]` and those of `xs`, slot by slot
    have hsplit : inSlots name n (x :: xs) = (List.range n).flatMap fun slot =>
        ([x].filter fun y => slotOf n (name y) == slot)
          ++ xs.filter fun y => slotOf n (name y) == slot := by
      refine List.flatMap_congr fun slot _ => ?_
      rw [← List.filter_append]
      rfl
    rw [hsplit]
    refine (List.flatMap_append_perm _ _ _).symm.trans ?_
    show (inSlots name n [x] ++ inSlots name n xs).Perm _
    rw [inSlots_singleton name h]
    exact ih.cons x

/-! ## Hash tables -/

/-- A hash table: for each slot the chain of the elements in it. -/
structure HashTable (α : Type) where
  chains : List (List α)

namespace HashTable

/-- The number of slots. -/
def slots (t : HashTable α) : Nat :=
  t.chains.length

/-- The elements slot by slot. -/
def toList (t : HashTable α) : List α :=
  t.chains.flatten

/-- The table of sixteen slots with nothing in it. -/
def empty : HashTable α :=
  ⟨List.replicate 16 []⟩

/-- The table with an element at the end of the chain of its slot. -/
def append (t : HashTable α) (x : α) : HashTable α :=
  ⟨t.chains.modify (slotOf t.slots (name x)) (· ++ [x])⟩

/-- The table with twice as many slots. Of each chain the elements that keep their slot stay, and
the others go as many slots further on as there were. -/
def doubled (t : HashTable α) : HashTable α :=
  ⟨(t.chains.map fun chain => chain.filter fun x => slotOf (t.slots * 2) (name x) < t.slots)
    ++ t.chains.map fun chain => chain.filter fun x => t.slots ≤ slotOf (t.slots * 2) (name x)⟩

/-- The table with one element more, doubled if it is more than three quarters full. -/
def insert (t : HashTable α) (x : α) : HashTable α :=
  let t' := t.append name x
  if t'.slots * 3 < t'.toList.length * 4 then t'.doubled name else t'

/-- The table that is filled with elements one by one. -/
def fill (xs : List α) : HashTable α :=
  xs.foldl (insert name) empty

/-- The table without the element of the name that `x` has. -/
def remove (t : HashTable α) (x : α) : HashTable α :=
  ⟨t.chains.modify (slotOf t.slots (name x)) (List.filter fun y => name y ≠ name x)⟩

/-! ## What is in a table -/

/-- The table in which elements have been put into one number of slots from the start. -/
def arranged (n : Nat) (xs : List α) : HashTable α :=
  ⟨(List.range n).map fun slot => xs.filter fun x => slotOf n (name x) == slot⟩

theorem slots_arranged (n : Nat) (xs : List α) : (arranged name n xs).slots = n := by
  rw [HashTable.slots, arranged, List.length_map, List.length_range]

theorem toList_arranged (n : Nat) (xs : List α) :
    (arranged name n xs).toList = inSlots name n xs := rfl

/-- A change of the chain of one slot is a change of what the elements of that slot are. -/
theorem modify_arranged {xs ys : List α} {own : Nat} {change : List α → List α}
    (hown : (ys.filter fun x => slotOf n (name x) == own)
      = change (xs.filter fun x => slotOf n (name x) == own))
    (hother : ∀ slot ≠ own, (ys.filter fun x => slotOf n (name x) == slot)
      = xs.filter fun x => slotOf n (name x) == slot) :
    (arranged name n xs).chains.modify own change = (arranged name n ys).chains := by
  refine List.ext_getElem? fun slot => ?_
  rw [List.getElem?_modify, Option.map_eq_map, arranged, arranged, List.getElem?_map,
    List.getElem?_map]
  by_cases hslot : slot < n
  · rw [List.getElem?_range hslot, Option.map_some, Option.map_some, Option.map_some]
    by_cases heq : own = slot
    · rw [if_pos heq, ← heq, hown]
    · rw [if_neg heq, hother slot (Ne.symm heq)]
  · rw [List.getElem?_eq_none (by rw [List.length_range]; omega)]
    rfl

theorem append_arranged (n : Nat) (xs : List α) (x : α) :
    (arranged name n xs).append name x = arranged name n (xs ++ [x]) := by
  refine congrArg HashTable.mk ?_
  rw [slots_arranged]
  refine modify_arranged name ?_ fun slot hslot => ?_
  · rw [List.filter_append, List.filter_cons_of_pos (by simp), List.filter_nil]
  · rw [List.filter_append, List.filter_cons_of_neg (by simp [Ne.symm hslot]), List.filter_nil,
      List.append_nil]

theorem doubled_arranged (h : 0 < n) (xs : List α) :
    (arranged name n xs).doubled name = arranged name (n * 2) xs := by
  have hrange : List.range (n * 2)
      = List.range n ++ (List.range n).map fun slot => n + slot := by
    rw [Nat.mul_two, List.range_add]
  refine congrArg HashTable.mk ?_
  rw [slots_arranged, arranged, hrange, List.map_append, List.map_map, List.map_map,
    List.map_map]
  -- a slot of the larger table has its elements from one chain only
  congr 1
  · refine List.map_congr_left fun slot hslot => ?_
    rw [Function.comp_apply, List.filter_filter]
    refine List.filter_congr fun x _ => ?_
    have hlt := List.mem_range.1 hslot
    have hown := slotOf_lt h (name x)
    have hdoubled := slotOf_mul_two n (name x)
    rw [Bool.eq_iff_iff, Bool.and_eq_true, decide_eq_true_iff, beq_iff_eq, beq_iff_eq]
    omega
  · refine List.map_congr_left fun slot hslot => ?_
    rw [Function.comp_apply, Function.comp_apply, List.filter_filter]
    refine List.filter_congr fun x _ => ?_
    have hown := slotOf_lt h (name x)
    have hdoubled := slotOf_mul_two n (name x)
    rw [Bool.eq_iff_iff, Bool.and_eq_true, decide_eq_true_iff, beq_iff_eq, beq_iff_eq]
    omega

/-- A table that has grown is the same as one that has had its slots from the start. -/
theorem fill_eq_arranged (xs : List α) :
    fill name xs = arranged name (slotsFor xs.length) xs := by
  -- from the end of the list, where the element that makes the table grow stands
  induction xs using List.reverseRecOn with
  | nil =>
    have hslots : slotsFor 0 = 16 := by
      rw [slotsFor, slotsFrom.eq_def, if_neg (by decide)]
    rw [List.length_nil, hslots]
    rfl
  | append_singleton xs x ih =>
    have hlength : ((arranged name (slotsFor xs.length) (xs ++ [x])).toList).length
        = xs.length + 1 := by
      rw [toList_arranged, (perm_inSlots name (slotsFor_pos _) _).length_eq, List.length_append,
        List.length_singleton]
    rw [fill, List.foldl_append, List.foldl_cons, List.foldl_nil, ← fill, ih, insert,
      append_arranged, slots_arranged, hlength, doubled_arranged name (slotsFor_pos _),
      List.length_append, List.length_singleton, slotsFor_succ]
    by_cases hgrow : slotsFor xs.length * 3 < (xs.length + 1) * 4
    · rw [if_pos hgrow, if_pos hgrow]
    · rw [if_neg hgrow, if_neg hgrow]

theorem remove_arranged (n : Nat) (xs : List α) (x : α) :
    (arranged name n xs).remove name x
      = arranged name n (xs.filter fun y => name y ≠ name x) := by
  refine congrArg HashTable.mk ?_
  rw [slots_arranged]
  refine modify_arranged name ?_ fun slot hslot => ?_
  · rw [List.filter_filter, List.filter_filter]
    exact List.filter_congr fun y _ => Bool.and_comm _ _
  · rw [List.filter_filter]
    refine List.filter_congr fun y _ => ?_
    -- what has the name is in another slot
    by_cases hname : name y = name x
    · simp [hname, Ne.symm hslot]
    · simp [hname]

theorem foldl_remove_arranged (n : Nat) (xs gone : List α) :
    gone.foldl (remove name) (arranged name n xs)
      = arranged name n (xs.filter fun y => ∀ x ∈ gone, name y ≠ name x) := by
  induction gone generalizing xs with
  | nil => simp
  | cons x gone ih =>
    rw [List.foldl_cons, remove_arranged, ih, List.filter_filter]
    congr 2
    funext y
    simp [Bool.and_comm]

/-- Once the elements that are not kept have been taken out, those that are kept are listed in
bucket order. -/
theorem toList_foldl_remove {xs gone : List α} {kept : α → Bool} (hnames : (xs.map name).Nodup)
    (hgone : gone.Perm (xs.filter fun x => !kept x)) :
    (gone.foldl (remove name) (fill name xs)).toList
      = bucketOrder name xs.length (xs.filter kept) := by
  have hkept : (xs.filter fun y => ∀ x ∈ gone, name y ≠ name x) = xs.filter kept := by
    refine List.filter_congr fun y hy => ?_
    rw [Bool.eq_iff_iff, decide_eq_true_iff]
    constructor
    · intro hother
      by_contra hnot
      have hmem : y ∈ gone := by
        rw [hgone.mem_iff, List.mem_filter]
        exact ⟨hy, by simp [hnot]⟩
      exact hother y hmem rfl
    · intro hyes x hx hsame
      obtain ⟨hx, hno⟩ := List.mem_filter.1 (hgone.mem_iff.1 hx)
      -- names are not repeated, so that what is removed by its name is the element itself
      obtain rfl : y = x := List.inj_on_of_nodup_map hnames hy hx hsame
      simp [hyes] at hno
  rw [fill_eq_arranged, foldl_remove_arranged, toList_arranged, hkept, bucketOrder]

end HashTable

end

/-! ## Bucket order -/

theorem nodup_referenceNames (q : Query) (s : Select) :
    ((referencedColumns q s).map referenceName).Nodup := by
  refine List.pairwise_map.2 ((pairwise_distinctBy _ _).imp fun {x y} hother hsame => ?_)
  rw [hsame, sameName_self] at hother
  cases hother

/-- The number of slots is a power of two, so a mask tells the slot of a hash. -/
theorem slotOf_slotsFor (count : Nat) (text : String) : slotOf (slotsFor count) text
    = (hashValue text ^^^ (hashValue text >>> 16)) &&& (slotsFor count - 1) := by
  obtain ⟨k, hslots, -, -⟩ := exists_slotsFor_eq count
  have hpow : slotsFor count = 2 ^ (k + 4) := by
    rw [hslots, Nat.pow_add]
    omega
  rw [slotOf_eq, hpow, Nat.and_two_pow_sub_one_eq_mod]

/-- If names are different, what is kept of them is in the order in which a hash table lists it that
all of them have been put into, one by one, and the others have been taken out of again. Nothing is
lost or doubled on the way; the slots are doubled no more often than needed, and every name has one
of them. The columns that are appended are in the order of the table of all columns referred to. -/
theorem bucketOrder_eq_toList {α : Type} (name : α → String) (xs gone : List α) (kept : α → Bool)
    (hnames : (xs.map name).Nodup) (hgone : gone.Perm (xs.filter fun x => !kept x)) :
    bucketOrder name xs.length (xs.filter kept)
        = (gone.foldl (HashTable.remove name) (HashTable.fill name xs)).toList
      ∧ (∀ count (ys : List α), (bucketOrder name count ys).Perm ys)
      ∧ (∀ count, ∃ k, slotsFor count = 16 * 2 ^ k ∧ count * 4 ≤ slotsFor count * 3
        ∧ ∀ j < k, 16 * 2 ^ j * 3 < count * 4)
      ∧ (∀ count text, slotOf (slotsFor count) text < slotsFor count
        ∧ slotOf (slotsFor count) text
          = (hashValue text ^^^ (hashValue text >>> 16)) % slotsFor count
        ∧ slotOf (slotsFor count) text
          = (hashValue text ^^^ (hashValue text >>> 16)) &&& (slotsFor count - 1))
      ∧ ∀ q s, appendedColumns q s
        = (((referencedColumns q s).filter fun c => !isMissing s c).foldl
          (HashTable.remove referenceName)
          (HashTable.fill referenceName (referencedColumns q s))).toList :=
  ⟨(HashTable.toList_foldl_remove name hnames hgone).symm,
    fun count ys => perm_inSlots name (slotsFor_pos count) ys,
    exists_slotsFor_eq,
    fun count text => ⟨slotOf_lt (slotsFor_pos count) text, slotOf_eq _ _,
      slotOf_slotsFor count text⟩,
    fun q s =>
      (HashTable.toList_foldl_remove referenceName (nodup_referenceNames q s) (.refl _)).symm⟩

/-- Names that have one hash stay in the order in which they came, also when the table has grown
with the thirteenth name. -/
theorem bucketOrder_eq_toList_grown :
    let names := ["id", "day", "city", "price", "BB", "Aa", "amount", "region", "größe", "名前",
      "𝒜𝒷", "channel", "created_at"]
    bucketOrder id 13 (names.filter fun name => name.length < 6)
      = ["BB", "Aa", "city", "名前", "größe", "price", "𝒜𝒷", "id", "day"] := by
  intro names
  have hnames : (names.map id).Nodup := by decide +kernel
  obtain ⟨htable, -⟩ := bucketOrder_eq_toList id names
    ["created_at", "channel", "region", "amount"] (fun name => name.length < 6) hnames
    (by decide +kernel)
  refine htable.trans ?_
  decide +kernel

end MetricQuery.Correction
