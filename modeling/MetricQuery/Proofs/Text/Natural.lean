import Mathlib.Data.List.Basic
import MetricQuery.Text.Natural

/-!
# Natural numbers as text — a number is read back from its digits
-/

namespace MetricQuery.Text

variable {s : String} {n : Nat}

theorem digitsValue_eq_ofDigitChars (cs : List Char) :
    digitsValue cs = Nat.ofDigitChars 10 cs 0 := by
  rw [digitsValue, Nat.ofDigitChars_eq_foldl]
  simp only [Nat.mul_comm]

/-- Whether characters are the decimal digits of a number. -/
def AreDigits (cs : List Char) (n : Nat) : Prop :=
  cs ≠ [] ∧ (∀ d ∈ cs, d.isDigit = true) ∧ Nat.ofDigitChars 10 cs 0 = n

/-- Whether a text is a number in decimal digits, perhaps with a plus sign in front. -/
def IsDecimal (s : String) (n : Nat) : Prop :=
  ∃ digits, AreDigits digits n ∧ (s.toList = digits ∨ s.toList = '+' :: digits)

theorem word?_eq_some {digits : List Char} :
    (if digits.isEmpty || !digits.all Char.isDigit then none
      else if digitsValue digits ≤ maxWord then some (digitsValue digits) else none) = some n
    ↔ AreDigits digits n ∧ n ≤ maxWord := by
  rw [AreDigits, ← digitsValue_eq_ofDigitChars]
  by_cases hempty : digits = []
  · simp [hempty]
  · by_cases hall : ∀ d ∈ digits, d.isDigit = true
    · have hdigits : (digits.isEmpty || !digits.all Char.isDigit) = false := by
        simpa [hempty] using hall
      rw [hdigits, if_neg Bool.false_ne_true]
      constructor
      · intro h
        by_cases hle : digitsValue digits ≤ maxWord
        · rw [if_pos hle] at h
          obtain rfl := Option.some.inj h
          exact ⟨⟨hempty, hall, rfl⟩, hle⟩
        · rw [if_neg hle] at h
          cases h
      · rintro ⟨⟨-, -, rfl⟩, hle⟩
        exact if_pos hle
    · have hdigits : (digits.isEmpty || !digits.all Char.isDigit) = true := by
        simpa [hempty] using hall
      simp [hdigits, hall]

/-- Decimal digits are read as the number that they stand for, if it fits a word. -/
theorem readWord?_eq_some : readWord? s = some n ↔ IsDecimal s n ∧ n ≤ maxWord := by
  constructor
  · intro h
    unfold readWord? at h
    split at h
    · next digits hs =>
      obtain ⟨hdigits, hle⟩ := word?_eq_some.1 h
      exact ⟨⟨digits, hdigits, .inr hs⟩, hle⟩
    · obtain ⟨hdigits, hle⟩ := word?_eq_some.1 h
      exact ⟨⟨s.toList, hdigits, .inl rfl⟩, hle⟩
  · rintro ⟨⟨digits, hdigits, hs | hs⟩, hle⟩
    · have hplain : ∀ rest, s.toList ≠ '+' :: rest := by
        intro rest hplus
        have hdigit := hdigits.2.1 '+' (hs ▸ hplus ▸ .head _)
        exact absurd hdigit (by decide)
      unfold readWord?
      split
      · next rest hplus => exact absurd hplus (hplain rest)
      · exact word?_eq_some.2 ⟨hs ▸ hdigits, hle⟩
    · unfold readWord?
      rw [hs]
      exact word?_eq_some.2 ⟨hdigits, hle⟩

/-- A number that fits a word is read back from its decimal digits. -/
theorem readWord?_toString (h : n ≤ maxWord) : readWord? (toString n) = some n := by
  have hlist : (toString n).toList = Nat.toDigits 10 n := Nat.toList_repr
  have hdigits : AreDigits (Nat.toDigits 10 n) n :=
    ⟨Nat.toDigits_ne_nil, fun _ hc => Nat.isDigit_of_mem_toDigits (by decide) (by decide) hc,
      Nat.ofDigitChars_toDigits (by decide) (by decide)⟩
  exact readWord?_eq_some.2 ⟨⟨_, hdigits, .inl hlist⟩, h⟩

end MetricQuery.Text
