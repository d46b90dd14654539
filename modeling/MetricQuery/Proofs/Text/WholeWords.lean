import Mathlib.Data.List.Induction
import MetricQuery.Proofs.Text.LowerCase
import MetricQuery.Text.Quoted
import MetricQuery.Text.WholeWord

/-!
# Whole words — what the search for a name finds

The search finds a name in a text exactly if some spelling of the name stands there with no word
character on either side. Between two quote marks a name without such marks stands as it is, and
the marks are no word characters, so that a quoted name is found like any other.
-/

namespace MetricQuery.Text

variable {name shown before after rest text : List Char} {c mark : Char} {inWord : Bool}

/-! ## Names that stand apart -/

/-- Whether the name stands in the text, with no word character on either side. -/
def StandsApart (name text : List Char) : Prop :=
  ∃ before after, text = before ++ (name ++ after)
    ∧ endsWord before.reverse = true ∧ endsWord after = true

theorem standsApart_iff : StandsApart name text ↔ ∃ i < text.length + 1,
    text = text.take i ++ (name ++ (text.drop i).drop name.length)
      ∧ endsWord (text.take i).reverse = true
      ∧ endsWord ((text.drop i).drop name.length) = true := by
  constructor
  · rintro ⟨before, after, htext, hbefore, hafter⟩
    have htake : text.take before.length = before := by rw [htext, List.take_left]
    have hdrop : (text.drop before.length).drop name.length = after := by
      rw [htext, List.drop_left, List.drop_left]
    refine ⟨before.length, ?_, ?_, ?_, ?_⟩
    · rw [htext, List.length_append]
      omega
    · rw [htake, hdrop]
      exact htext
    · rwa [htake]
    · rwa [hdrop]
  · rintro ⟨i, -, htext, hbefore, hafter⟩
    exact ⟨_, _, htext, hbefore, hafter⟩

instance (name text : List Char) : Decidable (StandsApart name text) :=
  decidable_of_iff _ standsApart_iff.symm

/-- What stands between two marks that are no word characters stands apart. -/
theorem StandsApart.of_marked (hmark : isWordChar mark = false)
    (h : StandsApart (mark :: name ++ [mark]) text) : StandsApart name text := by
  obtain ⟨before, after, htext, -, -⟩ := h
  refine ⟨before ++ [mark], mark :: after, ?_, ?_, ?_⟩
  · rw [htext]
    simp only [List.cons_append, List.append_assoc, List.nil_append]
  · rw [List.reverse_append]
    simp [endsWord, hmark]
  · simp [endsWord, hmark]

theorem escapeQuotes_of_not_mem {escaped : Bool} (h : mark ∉ name) :
    escapeQuotes mark escaped name = name := by
  induction name generalizing escaped with
  | nil => rfl
  | cons c rest ih =>
    have hc : c ≠ mark := fun heq => h (heq ▸ List.mem_cons_self)
    cases rest with
    | nil => simp [escapeQuotes, hc]
    | cons d rest => rw [escapeQuotes, if_neg hc, ih fun hmem => h (List.mem_cons_of_mem _ hmem)]

/-! ## What the search finds -/

theorem afterName?_eq_some : afterName? name text = some after
    ↔ ∃ shown, text = shown ++ after ∧ shown.map foldChar = name.map foldChar := by
  -- over the name, since the text may go on behind it
  induction name generalizing text with
  | nil =>
    simp only [afterName?, Option.some.injEq, List.map_nil, List.map_eq_nil_iff]
    constructor
    · rintro rfl
      exact ⟨[], rfl, rfl⟩
    · rintro ⟨_, rfl, rfl⟩
      rfl
  | cons n name ih =>
    cases text with
    | nil =>
      simp only [afterName?, reduceCtorEq, false_iff, not_exists, not_and]
      intro shown hnil hmap
      rw [(List.append_eq_nil_iff.1 hnil.symm).1] at hmap
      cases hmap
    | cons c text =>
      rw [afterName?]
      constructor
      · intro h
        split at h
        · next hfold =>
          obtain ⟨shown, rfl, hmap⟩ := ih.1 h
          refine ⟨c :: shown, rfl, ?_⟩
          rw [List.map_cons, List.map_cons, hmap, eq_of_beq hfold]
        · cases h
      · rintro ⟨shown, htext, hmap⟩
        cases shown with
        | nil => cases hmap
        | cons d shown =>
          obtain ⟨rfl, rfl⟩ := List.cons.inj htext
          obtain ⟨hfold, hmap⟩ := List.cons.inj hmap
          rw [if_pos (beq_iff_eq.2 hfold.symm)]
          exact ih.2 ⟨shown, rfl, hmap⟩

/-- Whether a word goes on behind the characters that the search has passed. -/
def inWordBehind (inWord : Bool) (before : List Char) : Bool :=
  before.foldl (fun _ c => isWordChar c) inWord

theorem inWordBehind_false : inWordBehind false before = !endsWord before.reverse := by
  induction before using List.reverseRecOn with
  | nil => rfl
  | append_singleton before c _ =>
    rw [inWordBehind, List.foldl_append, List.reverse_append]
    simp [endsWord]

/-- The search passes over the characters in front of the name. -/
theorem hasWordFrom_iff (hname : name ≠ []) : hasWordFrom name inWord text = true
    ↔ ∃ before shown after, text = before ++ (shown ++ after)
      ∧ shown.map foldChar = name.map foldChar
      ∧ inWordBehind inWord before = false ∧ endsWord after = true := by
  -- without this an empty name would be found in an empty text
  have hshown : ∀ {shown}, shown.map foldChar = name.map foldChar → shown ≠ [] := by
    rintro shown hmap rfl
    exact hname (List.map_eq_nil_iff.1 hmap.symm)
  induction text generalizing inWord with
  | nil =>
    simp only [hasWordFrom, Bool.false_eq_true, false_iff, not_exists, not_and]
    intro before shown after hnil hmap
    rw [eq_comm, List.append_eq_nil_iff, List.append_eq_nil_iff] at hnil
    exact absurd hnil.2.1 (hshown hmap)
  | cons c rest ih =>
    -- the name begins right here, or else it is found further on, which is the induction hypothesis
    have hhere : ((afterName? name (c :: rest)).map endsWord).getD false = true
        ↔ ∃ shown after, c :: rest = shown ++ after
          ∧ shown.map foldChar = name.map foldChar ∧ endsWord after = true := by
      cases hafter : afterName? name (c :: rest) with
      | none =>
        simp only [Option.map_none, Option.getD_none, Bool.false_eq_true, false_iff, not_exists,
          not_and]
        intro shown after htext hmap
        rw [afterName?_eq_some.2 ⟨shown, htext, hmap⟩] at hafter
        cases hafter
      | some after =>
        simp only [Option.map_some, Option.getD_some]
        constructor
        · intro hends
          obtain ⟨shown, htext, hmap⟩ := afterName?_eq_some.1 hafter
          exact ⟨shown, after, htext, hmap, hends⟩
        · rintro ⟨shown, after', htext, hmap, hends⟩
          rw [afterName?_eq_some.2 ⟨shown, htext, hmap⟩, Option.some.injEq] at hafter
          rwa [← hafter]
    rw [hasWordFrom, Bool.or_eq_true, Bool.and_eq_true, Bool.not_eq_true', hhere]
    -- `before` is empty exactly in the first of the two cases
    refine (or_congr_right ih).trans ⟨?_, ?_⟩
    · rintro (⟨hword, shown, after, htext, hmap, hends⟩
        | ⟨before, shown, after, rfl, hmap, hword, hends⟩)
      · exact ⟨[], shown, after, htext, hmap, hword, hends⟩
      · exact ⟨c :: before, shown, after, rfl, hmap, hword, hends⟩
    · rintro ⟨before, shown, after, htext, hmap, hword, hends⟩
      cases before with
      | nil => exact .inl ⟨hword, shown, after, htext, hmap, hends⟩
      | cons d before =>
        obtain ⟨rfl, rfl⟩ := List.cons.inj htext
        exact .inr ⟨before, shown, after, rfl, hmap, hword, hends⟩

/-- A name is found exactly if some spelling of it stands apart. -/
theorem hasWord_iff {name text : String} (hname : name ≠ "") : hasWord name text = true
    ↔ ∃ shown, shown.map foldChar = name.toList.map foldChar
      ∧ StandsApart shown text.toList := by
  have hne : name.toList ≠ [] := fun hnil => hname (String.toList_eq_nil_iff.1 hnil)
  rw [hasWord, hasWordFrom_iff hne]
  simp only [inWordBehind_false, Bool.not_eq_false', StandsApart]
  constructor
  · rintro ⟨before, shown, after, htext, hmap, hbefore, hafter⟩
    exact ⟨shown, hmap, before, after, htext, hbefore, hafter⟩
  · rintro ⟨shown, hmap, before, after, htext, hbefore, hafter⟩
    exact ⟨before, shown, after, htext, hmap, hbefore, hafter⟩

/-! ## ASCII spellings -/

theorem foldChar_toLower (h : c.toNat < 0x80) : foldChar c.toLower = foldChar c :=
  ascii_forall (P := fun c => foldChar c.toLower = foldChar c) (by decide +kernel) h

/-- A name is found in any case of its ASCII letters. -/
theorem hasWord_of_standsApart {name shown text : String} (hname : name ≠ "")
    (hascii : IsAscii shown) (hsame : asciiLower shown = name)
    (h : StandsApart shown.toList text.toList) : hasWord name text = true := by
  refine (hasWord_iff hname).2 ⟨shown.toList, ?_, h⟩
  rw [← hsame, asciiLower, String.toList_ofList, List.map_map]
  exact List.map_congr_left fun c hc => (foldChar_toLower (hascii c hc)).symm

end MetricQuery.Text
