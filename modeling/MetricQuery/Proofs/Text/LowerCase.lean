import Mathlib.Data.List.Basic
import MetricQuery.Text.LetterCase

/-!
# Lower case — what a text has become once its capitals are gone

Two facts about the tables carry everything: what a character is taken to is not moved any further,
and only the Kelvin sign is taken into ASCII from outside. So lower case is taken once and for all
(`lower_lower`), and a text whose lower-case form is made of ASCII letters other than `k` was made
of ASCII letters itself (`isAscii_of_lower`).
-/

namespace MetricQuery.Text

/-! ## Code points that are not moved -/

/-- Whether a code point is its own lower-case form. -/
def isLowerCode (n : Nat) : Bool :=
  if n < 0x80 then !(65 ≤ n && n ≤ 90)
  else lowerExpansions.all (fun e => !(e.1 == n)) && lowerRuns.all (fun r => !r.contains n)

/-- Whether no image under the first run is moved by the second: all of them lie on one side of it,
or the second run takes every other code point and the images fall in between. -/
def CaseRun.apart (r r' : CaseRun) : Bool :=
  r.apply r.last < r'.first || r'.last < r.apply r.first
    || (r'.step == 2 && (r.step == 2 || r.first == r.last) && (r.apply r.first + r'.first) % 2 == 1)

/-- Whether a run leads to valid code points that stay where they are, and to no ASCII letter but
the `k` of the Kelvin sign. -/
def CaseRun.settles (r : CaseRun) : Bool :=
  0 ≤ r.first + r.shift
    && (r.apply r.last < 0xd800 || (0xdfff < r.apply r.first && r.apply r.last < 0x110000))
    && (0x80 ≤ r.apply r.first || (r.apply r.first == 0x6b && r.apply r.last == 0x6b))
    && lowerExpansions.all (fun e => e.1 < r.apply r.first || r.apply r.last < e.1)
    && lowerRuns.all r.apart

theorem lowerRuns_settle : lowerRuns.all CaseRun.settles = true := by
  decide +kernel

variable {r r' : CaseRun} {n : Nat}

theorem CaseRun.le_of_contains (h : r.contains n = true) : r.first ≤ n ∧ n ≤ r.last := by
  simp only [contains, Bool.and_eq_true, decide_eq_true_eq] at h
  exact h.1

theorem CaseRun.apply_mono {m n : Nat} (h : m ≤ n) : r.apply m ≤ r.apply n := by
  simp only [apply]
  omega

theorem CaseRun.contains_apply_of_apart (hpos : 0 ≤ r.first + r.shift)
    (happart : r.apart r' = true) (h : r.contains n = true) : r'.contains (r.apply n) = false := by
  obtain ⟨hfirst, hlast⟩ := le_of_contains h
  have hlow := r.apply_mono hfirst
  have hhigh := r.apply_mono hlast
  by_contra hin
  rw [Bool.not_eq_false] at hin
  obtain ⟨hfirst', hlast'⟩ := le_of_contains hin
  simp only [apart, Bool.or_eq_true, decide_eq_true_eq, Bool.and_eq_true, beq_iff_eq] at happart
  obtain (hlt | hlt) | ⟨⟨hstep', hstep | hsingle⟩, hodd⟩ := happart
  · omega
  · omega
  · -- both runs take every other code point, and parity keeps the images out
    simp only [contains, Bool.and_eq_true, beq_iff_eq, hstep, hstep'] at h hin
    simp only [apply] at hin hodd hfirst'
    omega
  · simp only [contains, Bool.and_eq_true, beq_iff_eq, hstep'] at hin
    obtain rfl : n = r.first := by omega
    omega

/-- Where the runs lead. -/
theorem CaseRun.apply_spec (hr : r ∈ lowerRuns) (h : r.contains n = true) :
    (r.apply n).isValidChar ∧ isLowerCode (r.apply n) = true
      ∧ (0x80 ≤ r.apply n ∨ r.apply n = 0x6b) := by
  have hsettles := List.all_eq_true.1 lowerRuns_settle r hr
  simp only [settles, Bool.and_eq_true, Bool.or_eq_true, decide_eq_true_eq, beq_iff_eq,
    List.all_eq_true] at hsettles
  obtain ⟨⟨⟨⟨hpos, hvalid⟩, hout⟩, hexp⟩, hapart⟩ := hsettles
  obtain ⟨hfirst, hlast⟩ := le_of_contains h
  have hlow := r.apply_mono hfirst
  have hhigh := r.apply_mono hlast
  refine ⟨?_, ?_, by omega⟩
  · simp only [Nat.isValidChar]
    omega
  · by_cases hascii : r.apply n < 0x80
    · -- the one image in ASCII is that of the Kelvin sign
      have : r.apply n = 0x6b := by omega
      rw [this]
      rfl
    · simp only [isLowerCode, if_neg hascii, Bool.and_eq_true, List.all_eq_true]
      refine ⟨fun e he => ?_, fun r' hr' => ?_⟩
      · have := hexp e he
        simp only [Bool.not_eq_true', beq_eq_false_iff_ne]
        omega
      · rw [contains_apply_of_apart hpos (hapart r' hr') h]
        rfl

theorem lowerExpansions_images : ∀ e ∈ lowerExpansions,
    (∀ n ∈ e.2, n.isValidChar ∧ isLowerCode n = true) ∧ ∃ n ∈ e.2, 0x80 ≤ n := by
  decide +kernel

/-- A property of all ASCII characters, checked value by value. -/
theorem ascii_forall {P : Char → Prop} (h : ∀ n, n < 0x80 → P (Char.ofNat n)) {c : Char}
    (hc : c.toNat < 0x80) : P c := by
  have := h c.toNat hc
  rwa [Char.ofNat_toNat] at this

/-- In ASCII, a small letter is not moved, and it has the capital of the letter that it is taken
from. -/
theorem toLower_of_ascii {c : Char} (h : c.toNat < 0x80) : isLowerCode c.toLower.toNat = true
    ∧ (isLowerCode c.toNat = true → c.toLower = c) ∧ upperChar c.toLower = upperChar c :=
  ascii_forall (P := fun c => isLowerCode c.toLower.toNat = true
    ∧ (isLowerCode c.toNat = true → c.toLower = c) ∧ upperChar c.toLower = upperChar c)
    (by decide +kernel) h

/-- The two small forms of sigma are not moved, the capital is. -/
theorem isLowerCode_sigma : isLowerCode 'Σ'.toNat = false
    ∧ isLowerCode 'σ'.toNat = true ∧ isLowerCode 'ς'.toNat = true := by
  decide +kernel

theorem toNat_ofNat_of_valid {n : Nat} (h : n.isValidChar) : (Char.ofNat n).toNat = n := by
  have hchar : Char.ofNat n = Char.ofNatAux n h := dif_pos h
  rw [hchar]
  rfl

/-! ## The lower-case form of one character -/

theorem lowerChar_of_ascii {c : Char} (h : c.toNat < 0x80) : lowerChar c = [c.toLower] :=
  if_pos h

theorem lowerChar_of_isLowerCode {c : Char} (h : isLowerCode c.toNat = true) :
    lowerChar c = [c] := by
  by_cases hc : c.toNat < 0x80
  · rw [lowerChar_of_ascii hc, (toLower_of_ascii hc).2.1 h]
  · simp only [isLowerCode, if_neg hc, Bool.and_eq_true, List.all_eq_true] at h
    have hexp : lowerExpansions.find? (fun e => e.1 == c.toNat) = none :=
      List.find?_eq_none.2 fun e he => by simpa using h.1 e he
    have hrun : lowerRuns.find? (fun r => r.contains c.toNat) = none :=
      List.find?_eq_none.2 fun r hr => by simpa using h.2 r hr
    simp only [lowerChar, if_neg hc, mapCase, hexp, shiftCase, hrun]

theorem toLower_of_not_ascii {c : Char} (h : ¬ c.toNat < 0x80) : c.toLower = c := by
  have hcapital : ¬ (c.val ≥ 'A'.val ∧ c.val ≤ 'Z'.val) := by
    rintro ⟨-, hle⟩
    have hcode : c.toNat ≤ 90 := UInt32.le_iff_toNat_le.1 hle
    omega
  exact dif_neg hcapital

/-- The three ways in which a character that is not ASCII is taken to lower case. -/
theorem lowerChar_cases {c : Char} (hc : ¬ c.toNat < 0x80) :
    (∃ e ∈ lowerExpansions, lowerChar c = e.2.map Char.ofNat)
      ∨ (∃ r ∈ lowerRuns, r.contains c.toNat = true ∧ lowerChar c = [Char.ofNat (r.apply c.toNat)])
      ∨ (isLowerCode c.toNat = true ∧ lowerChar c = [c]) := by
  simp only [lowerChar, if_neg hc, mapCase]
  cases hexp : lowerExpansions.find? (fun e => e.1 == c.toNat) with
  | some e => exact .inl ⟨e, List.mem_of_find?_eq_some hexp, rfl⟩
  | none =>
    cases hrun : lowerRuns.find? (fun r => r.contains c.toNat) with
    | some r =>
      exact .inr (.inl ⟨r, List.mem_of_find?_eq_some hrun, by simpa using List.find?_some hrun,
        by simp [shiftCase, hrun]⟩)
    | none =>
      refine .inr (.inr ⟨?_, by simp [shiftCase, hrun]⟩)
      rw [List.find?_eq_none] at hexp hrun
      simp only [isLowerCode, if_neg hc, Bool.and_eq_true, List.all_eq_true]
      exact ⟨fun e he => by simpa using hexp e he, fun r hr => by simpa using hrun r hr⟩

theorem isLowerCode_of_mem_lowerChar {c x : Char} (h : x ∈ lowerChar c) :
    isLowerCode x.toNat = true := by
  by_cases hc : c.toNat < 0x80
  · rw [lowerChar_of_ascii hc, List.mem_singleton] at h
    subst h
    exact (toLower_of_ascii hc).1
  · -- outside ASCII a character is expanded, shifted or left
    rcases lowerChar_cases hc with ⟨e, he, hform⟩ | ⟨r, hr, hin, hform⟩ | ⟨hlow, hform⟩
    · rw [hform, List.mem_map] at h
      obtain ⟨n, hn, rfl⟩ := h
      obtain ⟨hvalid, hlow⟩ := (lowerExpansions_images e he).1 n hn
      rwa [toNat_ofNat_of_valid hvalid]
    · rw [hform, List.mem_singleton] at h
      obtain ⟨hvalid, hlow, -⟩ := CaseRun.apply_spec hr hin
      rwa [h, toNat_ofNat_of_valid hvalid]
    · rw [hform, List.mem_singleton] at h
      rwa [h]

/-- Outside ASCII a character leaves ASCII letters behind only if it is the Kelvin sign. -/
theorem exists_mem_lowerChar_of_not_ascii {c : Char} (hc : ¬ c.toNat < 0x80) :
    ∃ x ∈ lowerChar c, 0x80 ≤ x.toNat ∨ x = 'k' := by
  rcases lowerChar_cases hc with ⟨e, he, hform⟩ | ⟨r, hr, hin, hform⟩ | ⟨-, hform⟩
  · obtain ⟨hall, n, hn, hbig⟩ := lowerExpansions_images e he
    refine ⟨Char.ofNat n, hform ▸ List.mem_map_of_mem hn, .inl ?_⟩
    rwa [toNat_ofNat_of_valid (hall n hn).1]
  · obtain ⟨hvalid, -, hbig | hk⟩ := CaseRun.apply_spec hr hin
    · exact ⟨_, hform ▸ List.mem_singleton_self _, .inl (by rwa [toNat_ofNat_of_valid hvalid])⟩
    · exact ⟨_, hform ▸ List.mem_singleton_self _, .inr (by rw [hk])⟩
  · exact ⟨c, hform ▸ List.mem_singleton_self _, .inl (by omega)⟩

/-! ## The lower-case form of a text -/

/-- What stands in a lower-case form for one character of the text. -/
theorem mem_lowerFrom {before cs : List Char} {x : Char} (h : x ∈ lowerFrom before cs) :
    ∃ c ∈ cs, x ∈ lowerChar c ∨ x = 'σ' ∨ x = 'ς' := by
  induction cs generalizing before with
  | nil => cases h
  | cons c rest ih =>
    rw [lowerFrom] at h
    rcases List.mem_append.1 h with h | h
    · -- only a capital sigma looks at what stands around it
      refine ⟨c, .head _, ?_⟩
      split at h
      · rw [List.mem_singleton] at h
        split at h
        · exact .inr (.inr h)
        · exact .inr (.inl h)
      · exact .inl h
    · obtain ⟨d, hd, hx⟩ := ih h
      exact ⟨d, .tail _ hd, hx⟩

theorem lowerFrom_of_isLowerCode {before cs : List Char}
    (h : ∀ c ∈ cs, isLowerCode c.toNat = true) : lowerFrom before cs = cs := by
  induction cs generalizing before with
  | nil => rfl
  | cons c rest ih =>
    have hc := h c (.head _)
    -- a capital sigma is no lower-case code, so the rule for it is not met
    have hsigma : c ≠ 'Σ' := by
      rintro rfl
      rw [isLowerCode_sigma.1] at hc
      cases hc
    rw [lowerFrom, if_neg hsigma, lowerChar_of_isLowerCode hc,
      ih fun d hd => h d (.tail _ hd), List.singleton_append]

theorem isLowerCode_of_mem_lower {s : String} {x : Char} (h : x ∈ (lower s).toList) :
    isLowerCode x.toNat = true := by
  rw [lower, String.toList_ofList] at h
  obtain ⟨c, -, hx | rfl | rfl⟩ := mem_lowerFrom h
  · exact isLowerCode_of_mem_lowerChar hx
  · exact isLowerCode_sigma.2.1
  · exact isLowerCode_sigma.2.2

/-- Lower case is taken once and for all. -/
@[simp]
theorem lower_lower (s : String) : lower (lower s) = lower s := by
  conv_lhs => rw [lower, lowerFrom_of_isLowerCode fun x hx => isLowerCode_of_mem_lower hx]
  exact String.ofList_toList

/-! ## Texts in ASCII -/

/-- Whether every character of a text is ASCII. -/
def IsAscii (s : String) : Prop :=
  ∀ c ∈ s.toList, c.toNat < 0x80

theorem lowerFrom_of_ascii {before cs : List Char} (h : ∀ c ∈ cs, c.toNat < 0x80) :
    lowerFrom before cs = cs.map Char.toLower := by
  induction cs generalizing before with
  | nil => rfl
  | cons c rest ih =>
    have hc := h c (.head _)
    have hsigma : c ≠ 'Σ' := by
      rintro rfl
      exact absurd hc (by decide)
    rw [lowerFrom, if_neg hsigma, lowerChar_of_ascii hc, ih fun d hd => h d (.tail _ hd),
      List.singleton_append, List.map_cons]

theorem lower_of_isAscii {s : String} (h : IsAscii s) : lower s = asciiLower s := by
  rw [lower, asciiLower, lowerFrom_of_ascii h]

/-- A text is ASCII if it is once its ASCII capitals are small. -/
theorem isAscii_of_asciiLower {s : String} (h : IsAscii (asciiLower s)) : IsAscii s := by
  intro c hc
  by_contra hout
  have hmem : c.toLower ∈ (asciiLower s).toList := by
    rw [asciiLower, String.toList_ofList]
    exact List.mem_map_of_mem hc
  rw [toLower_of_not_ascii hout] at hmem
  exact hout (h c hmem)

/-- In ASCII, capitals are the same before and after taking lower case. -/
theorem upper_lower_of_isAscii {s : String} (h : IsAscii s) : upper (lower s) = upper s := by
  rw [lower_of_isAscii h, upper, upper, asciiLower, String.toList_ofList, List.flatMap_map]
  exact congrArg String.ofList (List.flatMap_congr fun c hc => (toLower_of_ascii (h c hc)).2.2)

/-- A character of a text outside ASCII leaves its trace in the lower-case form. -/
theorem exists_mem_lowerFrom (before : List Char) {cs : List Char} {c : Char} (h : c ∈ cs)
    (hc : ¬ c.toNat < 0x80) : ∃ x ∈ lowerFrom before cs, 0x80 ≤ x.toNat ∨ x = 'k' := by
  induction cs generalizing before with
  | nil => cases h
  | cons d rest ih =>
    rw [lowerFrom]
    rcases List.mem_cons.1 h with rfl | h
    · by_cases hsigma : c = 'Σ'
      · -- both small sigmas are outside ASCII
        rw [if_pos hsigma]
        split
        · exact ⟨'ς', by simp, .inl (by decide)⟩
        · exact ⟨'σ', by simp, .inl (by decide)⟩
      · obtain ⟨x, hx, hout⟩ := exists_mem_lowerChar_of_not_ascii hc
        rw [if_neg hsigma]
        exact ⟨x, List.mem_append_left _ hx, hout⟩
    · obtain ⟨x, hx, hout⟩ := ih (d :: before) h
      exact ⟨x, List.mem_append_right _ hx, hout⟩

/-- A text is ASCII if its lower-case form is and has no `k`. -/
theorem isAscii_of_lower {s : String}
    (h : ∀ x ∈ (lower s).toList, x.toNat < 0x80 ∧ x ≠ 'k') : IsAscii s := by
  intro c hc
  by_contra hout
  obtain ⟨x, hx, hbig | rfl⟩ := exists_mem_lowerFrom [] hc hout
  · have := (h x (by simpa [lower] using hx)).1
    omega
  · exact (h 'k' (by simpa [lower] using hx)).2 rfl

end MetricQuery.Text
