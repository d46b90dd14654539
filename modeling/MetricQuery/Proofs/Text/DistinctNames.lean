import Mathlib.Data.List.Basic
import MetricQuery.Text.Distinct

/-!
# Distinct names — the first of each name, before and after a change

Of the elements of a list that share a name up to letter case the first one is kept. What a change
of the elements or of their names does to the kept ones can be told from the list itself.
-/

namespace MetricQuery.Text

variable {α β : Type}

/-- A change that keeps the names keeps the first of each name. -/
theorem distinctBy_map {name : β → String} {f : α → β} (xs : List α) :
    distinctBy name (xs.map f) = (distinctBy (name ∘ f) xs).map f := by
  induction xs with
  | nil => rfl
  | cons x xs ih =>
    rw [List.map_cons, distinctBy, distinctBy, List.map_cons, ih, List.filter_map]
    rfl

theorem map_distinctBy (name : α → String) (xs : List α) :
    (distinctBy name xs).map name = distinctNames (xs.map name) := by
  rw [distinctNames, distinctBy_map]
  rfl

/-- What does not look at letter case may be sorted out before or after. -/
theorem filter_distinctBy {name : α → String} {p : α → Bool}
    (hp : ∀ x y, sameName (name x) (name y) = true → p x = p y) (xs : List α) :
    (distinctBy name xs).filter p = distinctBy name (xs.filter p) := by
  induction xs with
  | nil => rfl
  | cons x xs ih =>
    rw [distinctBy]
    by_cases hx : p x = true
    · rw [List.filter_cons_of_pos hx, List.filter_cons_of_pos hx, distinctBy, ← ih,
        List.filter_filter, List.filter_filter]
      simp only [Bool.and_comm]
    · -- the elements that `x` stands for are sorted out with it
      rw [List.filter_cons_of_neg hx, List.filter_cons_of_neg hx, ← ih, List.filter_filter]
      refine List.filter_congr fun y _ => ?_
      cases hsame : sameName (name x) (name y) with
      | false => rw [Bool.not_false, Bool.and_true]
      | true => rw [Bool.not_true, Bool.and_false, ← hp x y hsame, eq_false_of_ne_true hx]

theorem distinctNames_cons (a : String) (names : List String) :
    distinctNames (a :: names) = a :: (distinctNames names).filter fun b => !sameName a b := rfl

theorem filter_distinctNames {p : String → Bool} (hp : ∀ a b, sameName a b = true → p a = p b)
    (names : List String) : (distinctNames names).filter p = distinctNames (names.filter p) :=
  filter_distinctBy hp names

/-- Images of distinct names are distinct images, if the image does not look at letter case. -/
theorem distinctNames_map {f : String → String}
    (hf : ∀ a b, sameName a b = true → sameName (f a) (f b) = true) (names : List String) :
    distinctNames ((distinctNames names).map f) = distinctNames (names.map f) := by
  have hp (a : String) (b c : String) (h : sameName b c = true) :
      (!sameName a b) = !sameName a c := by
    rw [sameName, beq_iff_eq] at h
    rw [sameName, sameName, h]
  induction names with
  | nil => rfl
  | cons a names ih =>
    have htail : (((distinctNames names).filter fun b => !sameName a b).map f).filter
          (fun b => !sameName (f a) b)
        = ((distinctNames names).map f).filter fun b => !sameName (f a) b := by
      rw [List.filter_map, List.filter_map, List.filter_filter]
      congr 1
      refine List.filter_congr fun b _ => ?_
      cases hsame : sameName a b with
      | false => rw [Bool.not_false, Bool.and_true]
      | true =>
        show ((!sameName (f a) (f b)) && !true) = !sameName (f a) (f b)
        rw [hf a b hsame, Bool.not_true, Bool.and_false]
    rw [distinctNames_cons, List.map_cons, distinctNames_cons, List.map_cons, distinctNames_cons, ← ih,
      filter_distinctNames (hp (f a)), filter_distinctNames (hp (f a)), htail]

theorem hasName_map_iff {name : α → String} {xs : List α} {a : String} :
    hasName (xs.map name) a = true ↔ ∃ x ∈ xs, sameName a (name x) = true := by
  rw [hasName, List.any_map, List.any_eq_true]
  rfl

/-! ## First places -/

theorem sameName_congr_left {a b : String} (h : sameName a b = true) : sameName a = sameName b := by
  rw [sameName, beq_iff_eq] at h
  funext c
  rw [sameName, sameName, h]

section

variable {name : α → String}

/-- Of a name that both lists have, the first one has the first element. -/
theorem distinctBy_append (xs ys : List α) : distinctBy name (xs ++ ys)
    = distinctBy name xs
      ++ (distinctBy name ys).filter fun y => !xs.any fun x => sameName (name x) (name y) := by
  induction xs with
  | nil => simp [distinctBy]
  | cons x xs ih =>
    rw [List.cons_append, distinctBy, ih, distinctBy, List.filter_append, List.filter_filter,
      List.cons_append]
    simp only [List.any_cons, Bool.not_or]

theorem any_distinctBy (xs : List α) (a : String) :
    ((distinctBy name xs).any fun x => sameName (name x) a) = xs.any fun x => sameName (name x) a := by
  rw [Bool.eq_iff_iff, List.any_eq_true, List.any_eq_true]
  constructor
  · rintro ⟨x, hx, hsame⟩
    exact ⟨x, distinctBy_subset hx, hsame⟩
  · rintro ⟨x, hx, hsame⟩
    obtain ⟨y, hy, hyx⟩ : ∃ y ∈ distinctBy name xs, sameName (name y) (name x) = true :=
      exists_mem_distinctBy hx
    exact ⟨y, hy, by rwa [sameName_congr_left hyx]⟩

theorem distinctBy_eq_self {xs : List α}
    (h : xs.Pairwise fun x y => sameName (name x) (name y) = false) : distinctBy name xs = xs := by
  induction h with
  | nil => rfl
  | cons hne _ ih =>
    rw [distinctBy, ih]
    exact congrArg _ (List.filter_eq_self.2 fun y hy => by rw [hne y hy]; rfl)

theorem distinctBy_append_distinctBy (xs ys : List α) :
    distinctBy name (distinctBy name xs ++ distinctBy name ys) = distinctBy name (xs ++ ys) := by
  rw [distinctBy_append, distinctBy_append, distinctBy_eq_self (pairwise_distinctBy name xs),
    distinctBy_eq_self (pairwise_distinctBy name ys)]
  simp only [any_distinctBy]

/-- The place of the first element of a name. -/
def firstPlace (name : α → String) (xs : List α) (a : String) : Nat :=
  xs.findIdx fun x => sameName (name x) a

/-- The elements that are kept are those at the first places of their names. -/
theorem mem_distinctBy_iff {xs : List α} {x : α} :
    x ∈ distinctBy name xs ↔ xs[firstPlace name xs (name x)]? = some x := by
  induction xs with
  | nil => simp [distinctBy]
  | cons y ys ih =>
    rw [distinctBy, List.mem_cons, List.mem_filter, ih, firstPlace, firstPlace, List.findIdx_cons]
    cases hsame : sameName (name y) (name x) with
    | true =>
      -- `y` is the first element of the name
      rw [Bool.not_true, cond_true, List.getElem?_cons_zero, Option.some.injEq]
      exact ⟨fun h => h.elim Eq.symm fun h => (Bool.false_ne_true h.2).elim, fun h => .inl h.symm⟩
    | false =>
      have hne : x ≠ y := by
        rintro rfl
        rw [sameName_self] at hsame
        cases hsame
      simp [hne]

/-- They are kept in the order of these places. -/
theorem pairwise_firstPlace (xs : List α) : (distinctBy name xs).Pairwise fun x y =>
    firstPlace name xs (name x) < firstPlace name xs (name y) := by
  induction xs with
  | nil => exact .nil
  | cons x xs ih =>
    have hlater : ∀ {y}, y ∈ (distinctBy name xs).filter (fun y => !sameName (name x) (name y)) →
        firstPlace name (x :: xs) (name y) = firstPlace name xs (name y) + 1 := by
      intro y hy
      have hne : sameName (name x) (name y) = false := by simpa using (List.mem_filter.1 hy).2
      rw [firstPlace, List.findIdx_cons, hne]
      rfl
    have hfirst : firstPlace name (x :: xs) (name x) = 0 := by
      rw [firstPlace, List.findIdx_cons, sameName_self]
      rfl
    refine .cons (fun y hy => ?_) ?_
    · rw [hfirst, hlater hy]
      exact Nat.succ_pos _
    · refine (ih.filter _).imp_of_mem fun hy hz hlt => ?_
      rw [hlater hy, hlater hz]
      exact Nat.succ_lt_succ hlt

end

end MetricQuery.Text
