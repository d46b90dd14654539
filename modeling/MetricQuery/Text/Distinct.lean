import MetricQuery.Text.LetterCase

/-!
# Distinct names — the first of each name, whatever its letter case

`distinctBy name xs` keeps of every name the element that bears it first. No two elements that are
kept share a name, and every name of the list is the name of one that is kept.
-/

namespace MetricQuery.Text

/-- The elements whose name no earlier element has, in their order. -/
def distinctBy {α : Type} (name : α → String) : List α → List α
  | [] => []
  | x :: xs => x :: (distinctBy name xs).filter fun y => !sameName (name x) (name y)

/-- The names that no earlier name of the list equals up to letter case. -/
def distinctNames (names : List String) : List String :=
  distinctBy id names

/-- Whether a name is among the given ones, in any letter case. -/
def hasName (names : List String) (name : String) : Bool :=
  names.any (sameName name)

variable {α : Type} {name : α → String}

theorem distinctBy_subset {xs : List α} {x : α} (h : x ∈ distinctBy name xs) : x ∈ xs := by
  induction xs with
  | nil => exact h
  | cons y ys ih => grind [distinctBy]

theorem pairwise_distinctBy (name : α → String) (xs : List α) :
    (distinctBy name xs).Pairwise fun x y => sameName (name x) (name y) = false := by
  induction xs with
  | nil => exact .nil
  | cons x xs ih =>
    refine .cons (fun y hy => ?_) (ih.filter _)
    simpa using (List.mem_filter.1 hy).2

theorem exists_mem_distinctBy {xs : List α} {x : α} (h : x ∈ xs) :
    ∃ y ∈ distinctBy name xs, sameName (name y) (name x) = true := by
  induction xs with
  | nil => cases h
  | cons z zs ih =>
    rcases List.mem_cons.1 h with rfl | h
    · exact ⟨x, .head _, sameName_self _⟩
    · obtain ⟨y, hy, hyx⟩ := ih h
      by_cases hzy : sameName (name z) (name y) = true
      · exact ⟨z, .head _, by simp_all [sameName]⟩
      · exact ⟨y, .tail _ (List.mem_filter.2 ⟨hy, by simpa using hzy⟩), hyx⟩

example : distinctNames ["a", "B", "A", "b", "c"] = ["a", "B", "c"] := by decide

end MetricQuery.Text
