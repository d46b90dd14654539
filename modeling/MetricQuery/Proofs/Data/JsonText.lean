import Mathlib.Algebra.Group.Nat.Defs
import Mathlib.Data.List.TakeDrop
import Mathlib.Data.List.TakeWhile
import MetricQuery.Data.Json
import MetricQuery.Proofs.Text.Natural

/-!
# JSON text — a value is read from what is written of it

What is written of a plain value is read as that value again, whatever stands behind it. A reading
takes the characters of one part and leaves the others, so a list or an object is read part by part.
-/

namespace MetricQuery.Value

/-! ## Plain values -/

variable {p q : Value → Bool} {v : Value} {items : List Value} {fields : List (String × Value)}

/-- What holds of scalars, and of lists and objects if it holds of what is in them, holds of all
values. -/
theorem induction {P : Value → Prop} (null : P .null) (boolean : ∀ b, P (.boolean b))
    (integer : ∀ n, P (.integer n)) (other : P .other) (illFormed : P .illFormed)
    (outOfRange : P .outOfRange) (text : ∀ s, P (.text s))
    (list : ∀ items, (∀ v ∈ items, P v) → P (.list items))
    (object : ∀ fields, (∀ f ∈ fields, P f.2) → P (.object fields)) (v : Value) : P v := by
  induction v using Value.rec (motive_2 := fun items => ∀ v ∈ items, P v)
    (motive_3 := fun fields => ∀ f ∈ fields, P f.2) (motive_4 := fun f => P f.2) with
  | null => exact null
  | boolean b => exact boolean b
  | integer n => exact integer n
  | other => exact other
  | illFormed => exact illFormed
  | outOfRange => exact outOfRange
  | text s => exact text s
  | list items ih => exact list items ih
  | object fields ih => exact object fields ih
  | _ => grind

theorem allItems_eq_true : allItems p items = true ↔ ∀ v ∈ items, v.all p = true := by
  induction items with
  | nil => simp [allItems]
  | cons v items ih => simp [allItems, ih]

theorem allFields_eq_true : allFields p fields = true ↔ ∀ f ∈ fields, f.2.all p = true := by
  induction fields with
  | nil => simp [allFields]
  | cons f fields ih => simp [allFields, ih]

/-- Whether the value is written with all that it says. Whatever is a number has to be a word. -/
def isPlain (v : Value) : Bool :=
  v.all fun
    | .integer n => (Value.integer n).word?.isSome
    | .other | .illFormed | .outOfRange => false
    | _ => true

theorem isPlain_list : (list items).isPlain = true ↔ ∀ v ∈ items, v.isPlain = true := by
  simp only [isPlain, all, Bool.true_and]
  exact allItems_eq_true

theorem isPlain_object : (object fields).isPlain = true ↔ ∀ f ∈ fields, f.2.isPlain = true := by
  simp only [isPlain, all, Bool.true_and]
  exact allFields_eq_true

theorem all_mono (hpq : ∀ v, p v = true → q v = true) (v : Value) (h : v.all p = true) :
    v.all q = true := by
  induction v using Value.induction with
  | list items ih =>
    simp only [all, Bool.and_eq_true, allItems_eq_true] at h ⊢
    exact ⟨hpq _ h.1, fun v hv => ih v hv (h.2 v hv)⟩
  | object fields ih =>
    simp only [all, Bool.and_eq_true, allFields_eq_true] at h ⊢
    exact ⟨hpq _ h.1, fun f hf => ih f hf (h.2 f hf)⟩
  | _ => exact hpq _ h

theorem isWellFormed_of_isPlain (h : v.isPlain = true) : v.isWellFormed = true := by
  refine all_mono (fun v hv => ?_) v h
  cases v <;> first | rfl | exact hv

theorem depthOfItems_le {levels : Nat} :
    depthOfItems items ≤ levels ↔ ∀ v ∈ items, v.depth ≤ levels := by
  induction items with
  | nil => simp [depthOfItems]
  | cons v items ih => rw [depthOfItems, Nat.max_le, ih, List.forall_mem_cons]

theorem depthOfFields_le {levels : Nat} :
    depthOfFields fields ≤ levels ↔ ∀ f ∈ fields, f.2.depth ≤ levels := by
  induction fields with
  | nil => simp [depthOfFields]
  | cons f fields ih => rw [depthOfFields, Nat.max_le, ih, List.forall_mem_cons]

end MetricQuery.Value

namespace MetricQuery.Text

/-! ## Hexadecimal digits -/

theorem hexValue?_digitChar : ∀ digit < 16, hexValue? (Nat.digitChar digit) = some digit := by
  decide

theorem hexNumber?_hexDigits (count n : Nat) :
    hexNumber? (hexDigits count n) = some (n % 16 ^ count) := by
  induction count generalizing n with
  | zero => simp [hexDigits, hexNumber?, Nat.mod_one]
  | succ count ih =>
    have hfront : (hexDigits count (n / 16)).foldlM
        (fun n c => (hexValue? c).map (n * 16 + ·)) 0 = some (n / 16 % 16 ^ count) := ih _
    have hlast := hexValue?_digitChar (n % 16) (Nat.mod_lt _ (by decide))
    rw [hexDigits, hexNumber?, List.foldlM_append, hfront]
    simp only [bind, Option.bind_some, List.foldlM_cons, List.foldlM_nil, hlast, Option.map_some]
    rw [Nat.pow_succ', Nat.mod_mul]
    exact congrArg some (by omega)

theorem takeHex?_hexDigits {count n : Nat} (h : n < 16 ^ count) (rest : List Char) :
    takeHex? count (hexDigits count n ++ rest) = some (n, rest) := by
  have hlength := length_hexDigits count n
  have hsplit : (hexDigits count n ++ rest).splitAt count = (hexDigits count n, rest) := by
    rw [List.splitAt_eq, List.take_left' hlength, List.drop_left' hlength]
  simp only [takeHex?, hsplit, if_pos hlength, hexNumber?_hexDigits, Nat.mod_eq_of_lt h,
    Option.map_some]

end MetricQuery.Text

namespace MetricQuery.Json

open MetricQuery.Text

variable {blanks rest : List Char} {rounds level : Nat}

/-! ## Strings -/

theorem unicodeEscape?_hexText4 {c : Char} (h : c.toNat < 0x20) :
    unicodeEscape? ((hexText4 c.toNat).toList ++ rest) = some (some c, rest) := by
  have hlow : ¬ (0xD800 ≤ c.toNat ∧ c.toNat ≤ 0xDBFF) := by omega
  have hchar : charOfCode? c.toNat = some c := by
    have hvalid : c.toNat.isValidChar := c.valid
    rw [charOfCode?, if_pos hvalid, Char.ofNat_toNat]
  rw [unicodeEscape?, hexText4, String.toList_ofList, takeHex?_hexDigits (by omega)]
  simp only [bind, Option.bind_some, if_neg hlow, hchar, pure]

/-- A round reads one character of the string. -/
theorem stringRest?_escape (c : Char) (cs : List Char) :
    stringRest? (rounds + 1) ((escape c).toList ++ cs)
      = (stringRest? rounds cs).map fun (more, rest) => (some c :: more, rest) := by
  unfold escape
  split
  -- a character that has no escape of its own is written by its number or as it is
  case h_8 hquote hslash _ _ _ _ _ =>
    split
    · next hcontrol =>
      have htext : ("\\u" ++ hexText4 c.toNat).toList ++ cs
          = '\\' :: 'u' :: ((hexText4 c.toNat).toList ++ cs) := by
        simp
      rw [htext, stringRest?, unicodeEscape?_hexText4 hcontrol]
      cases hmore : stringRest? rounds cs <;> simp [hmore]
    · next hcontrol =>
      have htext : c.toString.toList ++ cs = c :: cs := by simp
      rw [htext, stringRest?, if_neg hcontrol]
      · cases stringRest? rounds cs <;> simp
      · exact hquote
      · exact fun _ h _ => hslash h
      · exact fun _ _ h _ => hslash h
  all_goals
    cases hmore : stringRest? rounds cs <;> simp [stringRest?, escaped?, hmore]

/-- The characters that a string is written in, up to the closing quote. -/
theorem stringRest?_write {cs : List Char} (h : cs.length < rounds) :
    stringRest? rounds ((cs.map escape).flatMap String.toList ++ '"' :: rest)
      = some (cs.map some, rest) := by
  induction cs generalizing rounds with
  | nil =>
    obtain ⟨rounds, rfl⟩ := Nat.exists_eq_add_one_of_ne_zero (Nat.ne_of_gt h)
    rfl
  | cons c cs ih =>
    obtain ⟨rounds, rfl⟩ := Nat.exists_eq_add_one_of_ne_zero (Nat.ne_zero_of_lt h)
    rw [List.map_cons, List.flatMap_cons, List.append_assoc, stringRest?_escape,
      ih (Nat.lt_of_succ_lt_succ h)]
    rfl

theorem one_le_length_escape (c : Char) : 1 ≤ (escape c).toList.length := by
  unfold escape
  split <;> try decide
  split <;> simp

theorem toList_writeString (s : String) :
    (writeString s).toList
      = '"' :: ((s.toList.map escape).flatMap String.toList ++ ['"']) := by
  simp [writeString, String.toList_join]

/-- A string is read behind its opening quote. -/
theorem string?_write (s : String) :
    string? ((s.toList.map escape).flatMap String.toList ++ '"' :: rest) = some (some s, rest) := by
  -- an escape is never empty, so that the rounds are enough
  have hlength : ∀ cs : List Char, cs.length ≤ ((cs.map escape).flatMap String.toList).length := by
    intro cs
    induction cs with
    | nil => exact Nat.zero_le _
    | cons c cs ih =>
      have := one_le_length_escape c
      simp only [List.map_cons, List.flatMap_cons, List.length_append, List.length_cons]
      omega
  have hrounds : s.toList.length
      < ((s.toList.map escape).flatMap String.toList ++ '"' :: rest).length + 1 := by
    have := hlength s.toList
    simp only [List.length_append]
    omega
  have hchars : (s.toList.map some).mapM id = some s.toList := by
    induction s.toList with
    | nil => rfl
    | cons c cs ih => simp [List.mapM_cons, ih]
  simp only [string?, stringRest?_write hrounds, Option.map_some, hchars, String.ofList_toList]

/-! ## Numbers -/

/-- Whether a number ends in front of the characters. -/
def EndsNumber (cs : List Char) : Prop :=
  ∀ c ∈ cs.head?, c.isDigit = false ∧ c ≠ '.' ∧ c ≠ 'e' ∧ c ≠ 'E'

theorem EndsNumber.nil : EndsNumber [] := fun _ h => nomatch h

theorem digits?_append {digits : List Char} (hdigits : ∀ c ∈ digits, c.isDigit = true)
    (hne : digits ≠ []) (hrest : EndsNumber rest) :
    digits? (digits ++ rest) = some (digits, rest) := by
  have hend : rest.takeWhile Char.isDigit = [] ∧ rest.dropWhile Char.isDigit = rest := by
    cases rest with
    | nil => exact ⟨rfl, rfl⟩
    | cons c rest => simp [(hrest c rfl).1]
  have hspan : (digits ++ rest).span Char.isDigit = (digits, rest) := by
    rw [List.span_eq_takeWhile_dropWhile, List.takeWhile_append_of_pos hdigits,
      List.dropWhile_append_of_pos hdigits, hend.1, hend.2, List.append_nil]
  rw [digits?, hspan]
  cases digits with
  | nil => exact absurd rfl hne
  | cons c digits => rfl

theorem head?_toDigits_ne_zero {n : Nat} (h : n ≠ 0) : (Nat.toDigits 10 n).head? ≠ some '0' := by
  induction n using Nat.strongRecOn with
  | ind n ih =>
    by_cases hlt : n < 10
    · have hdigit : ∀ m < 10, m ≠ 0 → Nat.digitChar m ≠ '0' := by decide
      rw [Nat.toDigits_of_lt_base hlt, List.head?_cons]
      exact fun heq => hdigit n hlt h (Option.some.inj heq)
    · rw [Nat.toDigits_of_base_le (by decide) (Nat.not_lt.1 hlt),
        List.head?_append_of_ne_nil _ Nat.toDigits_ne_nil]
      exact ih _ (by omega) (by omega)

theorem wholePart?_toDigits (n : Nat) (hrest : EndsNumber rest) :
    wholePart? (Nat.toDigits 10 n ++ rest) = some (Nat.toDigits 10 n, rest) := by
  have hall : ∀ c ∈ Nat.toDigits 10 n, c.isDigit = true := fun _ =>
    Nat.isDigit_of_mem_toDigits (by decide) (by decide)
  rw [wholePart?, digits?_append hall Nat.toDigits_ne_nil hrest]
  by_cases hn : n = 0
  · subst hn
    rfl
  · have hhead := head?_toDigits_ne_zero hn
    simp only [bind, Option.bind_some, pure]
    split
    · next heq => exact absurd (by rw [heq, List.head?_cons]) hhead
    · rfl

end MetricQuery.Json

namespace MetricQuery.Binary64

open MetricQuery.Text

theorem round_le (n : Nat) : round n ≤ 2 * n := by
  by_cases hn : n = 0
  · subst hn
    decide
  · have hunit : 2 ^ (n.log2 - 52) ≤ n :=
      (Nat.pow_le_pow_right (by decide) (Nat.sub_le _ _)).trans (Nat.log2_self_le hn)
    have hwhole : n / 2 ^ (n.log2 - 52) * 2 ^ (n.log2 - 52) ≤ n := Nat.div_mul_le_self _ _
    simp only [round, Nat.pow_eq]
    split
    · rw [Nat.add_mul, Nat.one_mul]
      omega
    · omega

theorem productExceeds_of_le {n : Nat} (h : n ≤ maxWord) : productExceeds n 0 = false := by
  have hround : round n ≤ 2 * maxWord := (round_le n).trans (Nat.mul_le_mul_left 2 h)
  have hone : round (Nat.pow 10 0) = 1 := by decide
  have hbound : 2 * maxWord < bound := by decide +kernel
  have hless : ¬ bound ≤ round n * 1 := by omega
  simp only [productExceeds, Int.toNat_zero, hone, hless]
  simp

namespace Significand

section

-- unfolded, the value of a digit would be counted down from the code of its character
attribute [local irreducible] extended?

theorem addWhole_cons (s : Significand) (c : Char) (rest : List Char) :
    s.addWhole (c :: rest) = match s.extended? c with
      | some n => addWhole { s with mantissa := n } rest
      | none => { s with exponent := s.exponent + rest.length + 1 } := rfl

end

theorem le_ofDigitChars (cs : List Char) (n : Nat) : n ≤ Nat.ofDigitChars 10 cs n := by
  induction cs generalizing n with
  | nil => exact Nat.le_refl n
  | cons c cs ih =>
    rw [Nat.ofDigitChars_cons]
    exact le_trans (by omega) (ih _)

/-- Digits of a number that fits a word are all counted. -/
theorem addWhole_of_le {cs : List Char} {n : Nat} (h : Nat.ofDigitChars 10 cs n ≤ maxWord) :
    addWhole ⟨n, 0⟩ cs = ⟨Nat.ofDigitChars 10 cs n, 0⟩ := by
  induction cs generalizing n with
  | nil => rfl
  | cons c cs ih =>
    have hvalue : n * 10 + digitsValue [c] = 10 * n + (c.toNat - '0'.toNat) := by
      rw [digitsValue_eq_ofDigitChars, Nat.ofDigitChars_cons, Nat.ofDigitChars_nil]
      omega
    rw [Nat.ofDigitChars_cons, ← hvalue] at h ⊢
    have hle : n * 10 + digitsValue [c] ≤ maxWord := Nat.le_trans (le_ofDigitChars cs _) h
    have hnext : extended? ⟨n, 0⟩ c = some (n * 10 + digitsValue [c]) := by
      rw [extended?, if_pos hle]
    rw [addWhole_cons, hnext]
    exact ih h

end Significand

end MetricQuery.Binary64

namespace MetricQuery.Json

open MetricQuery.Text

variable {blanks rest : List Char} {rounds level : Nat}

theorem fraction?_of_endsNumber (h : EndsNumber rest) : fraction? rest = some ([], rest) := by
  unfold fraction?
  split
  · exact absurd rfl (h _ rfl).2.1
  · rfl

theorem exponent?_of_endsNumber (h : EndsNumber rest) : exponent? rest = some (none, rest) := by
  cases rest with
  | nil => rfl
  | cons c rest =>
    obtain ⟨-, -, hlower, hupper⟩ := h c rfl
    simp [exponent?, hlower, hupper]

theorem exists_toDigits_eq_cons (n : Nat) :
    ∃ c digits, Nat.toDigits 10 n = c :: digits ∧ ∀ d : Char, d.isDigit = false → c ≠ d := by
  obtain ⟨c, digits, heq⟩ := List.exists_cons_of_ne_nil (Nat.toDigits_ne_nil (n := n) (b := 10))
  have hmem : c ∈ Nat.toDigits 10 n := by
    rw [heq]
    exact .head _
  have hc := Nat.isDigit_of_mem_toDigits (by decide) (by decide) hmem
  refine ⟨c, digits, heq, ?_⟩
  rintro d hd rfl
  exact Bool.false_ne_true (hd.symm.trans hc)

theorem number?_toDigits {n : Nat} (hn : n ≤ maxWord) (hrest : EndsNumber rest) :
    number? (Nat.toDigits 10 n ++ rest) = some (.integer n, rest) := by
  obtain ⟨c, digits, heq, hother⟩ := exists_toDigits_eq_cons n
  have hvalue : Nat.ofDigitChars 10 (Nat.toDigits 10 n) 0 = n :=
    Nat.ofDigitChars_toDigits (by decide) (by decide)
  have hsignificand : Binary64.Significand.ofDigits (Nat.toDigits 10 n) [] 0 = ⟨n, 0⟩ := by
    rw [Binary64.Significand.ofDigits,
      Binary64.Significand.addWhole_of_le (hvalue.symm ▸ hn), hvalue]
    rfl
  have hdigits : digitsValue (Nat.toDigits 10 n) = n := by
    rw [digitsValue_eq_ofDigitChars, hvalue]
  have hexceeds : Binary64.Significand.exceeds ⟨n, 0⟩ = false := Binary64.productExceeds_of_le hn
  have hwhole := wholePart?_toDigits n hrest
  rw [heq] at hwhole hsignificand hdigits ⊢
  rw [List.cons_append] at hwhole ⊢
  -- the other branch is for a minus sign, which is no digit
  rw [number?]
  · simp [hwhole, fraction?_of_endsNumber hrest, exponent?_of_endsNumber hrest, hsignificand,
      hexceeds, hdigits]
  · exact fun _ h => hother '-' (by decide) (List.cons.inj h).1

/-! ## Values -/

theorem skipSpace_newLine (level : Nat) (cs : List Char) :
    skipSpace ((newLine level).toList ++ cs) = skipSpace cs := by
  have hspaces : ∀ c ∈ (newLine level).toList, isSpace c = true := by
    simp [newLine, isSpace]
  exact List.dropWhile_append_of_pos hspaces

theorem skipSpace_cons {c : Char} (h : isSpace c = false) (cs : List Char) :
    skipSpace (c :: cs) = c :: cs := by
  simp [skipSpace, h]

theorem value?_newLine (level : Nat) (cs : List Char) :
    value? rounds ((newLine level).toList ++ cs) = value? rounds cs := by
  cases rounds with
  | zero => simp only [value?]
  | succ rounds => simp only [value?, skipSpace_newLine]

theorem value?_blank (cs : List Char) : value? rounds (' ' :: cs) = value? rounds cs := by
  cases rounds with
  | zero => simp only [value?]
  | succ rounds =>
    have hskip : skipSpace (' ' :: cs) = skipSpace cs := rfl
    simp only [value?, hskip]

theorem items?_newLine (level : Nat) (cs : List Char) :
    items? rounds ((newLine level).toList ++ cs) = items? rounds cs := by
  cases rounds with
  | zero => simp only [items?]
  | succ rounds => simp only [items?, value?_newLine]

theorem fields?_newLine (level : Nat) (cs : List Char) :
    fields? rounds ((newLine level).toList ++ cs) = fields? rounds cs := by
  cases rounds with
  | zero => simp only [fields?]
  | succ rounds => simp only [fields?, skipSpace_newLine]

/-- Whether the value is read from what is written of it. -/
def ReadBack (v : Value) : Prop :=
  ∀ level rounds rest, EndsNumber rest → 2 * ((write level v).toList ++ rest).length + 2 ≤ rounds →
    value? rounds ((write level v).toList ++ rest) = some (v, rest)

theorem endsNumber_comma (cs : List Char) : EndsNumber (',' :: cs) := by
  simp [EndsNumber]

theorem endsNumber_newLine (level : Nat) (cs : List Char) :
    EndsNumber ((newLine level).toList ++ cs) := by
  simp [EndsNumber, newLine]

/-- Parts with commas between them, each but the first on a line of its own. -/
def separated (level : Nat) (parts : List String) : List Char :=
  (("," ++ newLine level).intercalate parts).toList

theorem separated_singleton (level : Nat) (p : String) : separated level [p] = p.toList := by
  simp [separated]

theorem separated_cons_cons (level : Nat) (p q : String) (parts : List String) :
    separated level (p :: q :: parts)
      = p.toList ++ ',' :: ((newLine level).toList ++ separated level (q :: parts)) := by
  simp [separated, String.intercalate_cons_cons]

theorem exists_separated_eq_cons {p : String} {c : Char} {cs : List Char} (h : p.toList = c :: cs)
    (level : Nat) (parts : List String) : ∃ more, separated level (p :: parts) = c :: more := by
  cases parts with
  | nil => exact ⟨cs, by rw [separated_singleton, h]⟩
  | cons q parts =>
    rw [separated_cons_cons, h]
    exact ⟨_, rfl⟩

theorem toList_bracketed (opening closing p : String) (level : Nat) (parts : List String) :
    (bracketed opening closing level (p :: parts)).toList
      = opening.toList ++ ((newLine (level + 1)).toList ++ (separated (level + 1) (p :: parts)
        ++ ((newLine level).toList ++ closing.toList))) := by
  simp [bracketed, separated]

theorem items?_write {v : Value} {items : List Value} (h : ∀ w ∈ v :: items, ReadBack w)
    (outer : Nat) (hrounds : 2 * (separated level (writeItems level (v :: items))
      ++ ((newLine outer).toList ++ ']' :: rest)).length + 3 ≤ rounds) :
    items? rounds (separated level (writeItems level (v :: items))
      ++ ((newLine outer).toList ++ ']' :: rest)) = some (v :: items, rest) := by
  induction items generalizing v rounds with
  | nil =>
    obtain ⟨rounds, rfl⟩ := Nat.exists_eq_add_one_of_ne_zero (Nat.ne_zero_of_lt hrounds)
    simp only [writeItems, separated_singleton] at hrounds ⊢
    rw [items?, h v (.head _) _ _ _ (endsNumber_newLine _ _) (by omega)]
    simp [skipSpace_newLine, skipSpace_cons, isSpace]
  | cons w items ih =>
    obtain ⟨rounds, rfl⟩ := Nat.exists_eq_add_one_of_ne_zero (Nat.ne_zero_of_lt hrounds)
    simp only [writeItems, separated_cons_cons, List.append_assoc, List.cons_append] at hrounds ⊢
    rw [items?, h v (.head _) _ _ _ (endsNumber_comma _) (by omega)]
    -- the items behind the comma take fewer rounds
    have hmore : items? rounds (separated level (writeItems level (w :: items))
        ++ ((newLine outer).toList ++ ']' :: rest)) = some (w :: items, rest) := by
      refine ih (fun u hu => h u (.tail _ hu)) ?_
      simp only [writeItems, List.length_append, List.length_cons] at hrounds ⊢
      omega
    rw [writeItems] at hmore
    simp [skipSpace_cons, isSpace, items?_newLine, hmore]

/-- A field is read together with the bracket or the comma behind it. -/
theorem fields?_field {v : Value} (h : ReadBack v) (name : String) {cs behind : List Char}
    (hcs : EndsNumber cs)
    (hrounds : 2 * ((writeString name ++ ": " ++ write level v).toList ++ cs).length + 2 ≤ rounds) :
    (skipSpace cs = '\x7d' :: behind →
      fields? (rounds + 1) ((writeString name ++ ": " ++ write level v).toList ++ cs)
        = some ([(some name, v)], behind))
    ∧ ∀ {more rest}, skipSpace cs = ',' :: behind → fields? rounds behind = some (more, rest) →
      fields? (rounds + 1) ((writeString name ++ ": " ++ write level v).toList ++ cs)
        = some ((some name, v) :: more, rest) := by
  have htext : (writeString name ++ ": " ++ write level v).toList ++ cs
      = '"' :: ((name.toList.map escape).flatMap String.toList
        ++ '"' :: ':' :: ' ' :: ((write level v).toList ++ cs)) := by
    simp [toList_writeString]
  -- the rounds are counted by the whole field, of which the value is a part
  have hvalue : value? rounds (' ' :: ((write level v).toList ++ cs)) = some (v, cs) := by
    rw [value?_blank]
    refine h level rounds cs hcs (hrounds.trans' ?_)
    simp only [String.toList_append, List.length_append]
    omega
  rw [htext, fields?, skipSpace_cons (by decide)]
  simp only [string?_write, bind, Option.bind_some, skipSpace_cons (c := ':') (by decide), hvalue]
  constructor
  · intro hend
    rw [hend]
    rfl
  · intro more rest hcomma hmore
    rw [hcomma]
    simp only [hmore, Option.bind_some]
    rfl

theorem fields?_write {f : String × Value} {fields : List (String × Value)}
    (h : ∀ g ∈ f :: fields, ReadBack g.2) (outer : Nat)
    (hrounds : 2 * (separated level (writeFields level (f :: fields))
      ++ ((newLine outer).toList ++ '\x7d' :: rest)).length + 3 ≤ rounds) :
    fields? rounds (separated level (writeFields level (f :: fields))
      ++ ((newLine outer).toList ++ '\x7d' :: rest))
      = some ((f :: fields).map fun g => (some g.1, g.2), rest) := by
  induction fields generalizing f rounds with
  | nil =>
    obtain ⟨rounds, rfl⟩ := Nat.exists_eq_add_one_of_ne_zero (Nat.ne_zero_of_lt hrounds)
    simp only [writeFields, separated_singleton] at hrounds ⊢
    refine (fields?_field (h f (.head _)) f.1 (endsNumber_newLine _ _) (by omega)).1 ?_
    rw [skipSpace_newLine, skipSpace_cons (by decide)]
  | cons g fields ih =>
    obtain ⟨rounds, rfl⟩ := Nat.exists_eq_add_one_of_ne_zero (Nat.ne_zero_of_lt hrounds)
    simp only [writeFields, separated_cons_cons, List.append_assoc, List.cons_append] at hrounds ⊢
    -- the fields behind the comma take fewer rounds
    have hmore : fields? rounds (separated level (writeFields level (g :: fields))
        ++ ((newLine outer).toList ++ '\x7d' :: rest))
        = some ((g :: fields).map fun g => (some g.1, g.2), rest) := by
      refine ih (fun u hu => h u (.tail _ hu)) ?_
      simp only [writeFields, List.length_append, List.length_cons] at hrounds ⊢
      omega
    rw [writeFields] at hmore
    refine (fields?_field (h f (.head _)) f.1 (endsNumber_comma _) (by omega)).2
      (skipSpace_cons (by decide) _) ?_
    rw [fields?_newLine, hmore]

theorem objectOf_texts (fields : List (String × Value)) :
    objectOf (fields.map fun f => (some f.1, f.2)) = .object fields := by
  have hmapM : (fields.map fun f => (some f.1, f.2)).mapM
      (fun (f : Option String × Value) => f.1.map (·, f.2)) = some fields := by
    induction fields with
    | nil => rfl
    | cons f fields ih => simp [List.mapM_cons, ih]
  rw [objectOf, hmapM]

theorem value?_integer {n : Nat} (hn : n ≤ maxWord) (hrest : EndsNumber rest) :
    value? (rounds + 1) (Nat.toDigits 10 n ++ rest) = some (.integer n, rest) := by
  have hnumber := number?_toDigits hn hrest
  obtain ⟨c, digits, heq, hother⟩ := exists_toDigits_eq_cons n
  have hspace : isSpace c = false := by
    simp [isSpace, hother]
  rw [heq, List.cons_append] at hnumber ⊢
  rw [value?, skipSpace_cons hspace]
  split
  case h_7 => exact hnumber
  all_goals
    next hchars => exact absurd (List.cons.inj hchars).1 (hother _ (by decide))

theorem ReadBack.of_succ {v : Value} (h : ∀ level rounds rest, EndsNumber rest →
    2 * ((write level v).toList ++ rest).length + 1 ≤ rounds →
      value? (rounds + 1) ((write level v).toList ++ rest) = some (v, rest)) : ReadBack v := by
  intro level rounds rest hrest hrounds
  obtain ⟨rounds, rfl⟩ := Nat.exists_eq_add_one_of_ne_zero (Nat.ne_zero_of_lt hrounds)
  exact h level rounds rest hrest (Nat.le_of_succ_le_succ hrounds)

theorem exists_write_eq_cons (level : Nat) (v : Value) :
    ∃ c cs, (write level v).toList = c :: cs ∧ isSpace c = false ∧ c ≠ ']' := by
  cases v with
  | boolean b => cases b <;> simp [write, isSpace]
  | integer n =>
    cases n with
    | ofNat n =>
      have htext : (write level (.integer (Int.ofNat n))).toList = Nat.toDigits 10 n :=
        Nat.toList_repr
      obtain ⟨c, digits, heq, hother⟩ := exists_toDigits_eq_cons n
      exact ⟨c, digits, htext.trans heq, by simp [isSpace, hother], hother _ (by decide)⟩
    | negSucc n => simp [write, toString, Int.repr, isSpace]
  | text s => simp [write, toList_writeString, isSpace]
  | list items => cases items <;> simp [write, writeItems, bracketed, isSpace]
  | object fields => cases fields <;> simp [write, writeFields, bracketed, isSpace]
  | _ => simp [write, isSpace]

theorem readBack_list {items : List Value} (h : ∀ v ∈ items, ReadBack v) :
    ReadBack (.list items) := by
  refine .of_succ fun level rounds rest hrest hrounds => ?_
  cases items with
  | nil => simp [write, writeItems, bracketed, value?, skipSpace, isSpace]
  | cons v items =>
    have htext : (write level (.list (v :: items))).toList ++ rest
        = '[' :: ((newLine (level + 1)).toList
          ++ (separated (level + 1) (writeItems (level + 1) (v :: items))
            ++ ((newLine level).toList ++ ']' :: rest))) := by
      rw [write, writeItems, toList_bracketed]
      simp
    rw [htext, List.length_cons, List.length_append] at hrounds
    have hitems : items? rounds (separated (level + 1) (writeItems (level + 1) (v :: items))
        ++ ((newLine level).toList ++ ']' :: rest)) = some (v :: items, rest) :=
      items?_write h level (by omega)
    -- the first item begins with neither a blank nor the closing bracket
    obtain ⟨c, cs, hfirst, hspace, hend⟩ := exists_write_eq_cons (level + 1) v
    obtain ⟨more, hbody⟩ :=
      exists_separated_eq_cons hfirst (level + 1) (writeItems (level + 1) items)
    rw [writeItems, hbody, List.cons_append] at hitems
    rw [htext, writeItems, hbody, List.cons_append, value?, skipSpace_cons (by decide)]
    simp only [skipSpace_newLine, skipSpace_cons hspace]
    split
    · next hchars => exact absurd (List.cons.inj hchars).1 hend
    · rw [hitems]
      rfl

theorem readBack_object {fields : List (String × Value)} (h : ∀ f ∈ fields, ReadBack f.2) :
    ReadBack (.object fields) := by
  refine .of_succ fun level rounds rest hrest hrounds => ?_
  cases fields with
  | nil => simp [write, writeFields, bracketed, value?, skipSpace, isSpace]
  | cons f fields =>
    have htext : (write level (.object (f :: fields))).toList ++ rest
        = '\x7b' :: ((newLine (level + 1)).toList
          ++ (separated (level + 1) (writeFields (level + 1) (f :: fields))
            ++ ((newLine level).toList ++ '\x7d' :: rest))) := by
      rw [write, writeFields, toList_bracketed]
      simp
    rw [htext, List.length_cons, List.length_append] at hrounds
    have hfields : fields? rounds (separated (level + 1) (writeFields (level + 1) (f :: fields))
        ++ ((newLine level).toList ++ '\x7d' :: rest))
        = some ((f :: fields).map fun g => (some g.1, g.2), rest) :=
      fields?_write h level (by omega)
    -- the body begins with a quote mark, so that the object is not taken for an empty one
    obtain ⟨cs, hfirst⟩ : ∃ cs,
        (writeString f.1 ++ ": " ++ write (level + 1) f.2).toList = '"' :: cs := by
      rw [String.toList_append, String.toList_append, toList_writeString]
      exact ⟨_, rfl⟩
    obtain ⟨more, hbody⟩ :=
      exists_separated_eq_cons hfirst (level + 1) (writeFields (level + 1) fields)
    rw [writeFields, hbody, List.cons_append] at hfields
    rw [htext, writeFields, hbody, List.cons_append, value?, skipSpace_cons (by decide)]
    simp only [skipSpace_newLine, skipSpace_cons (c := '"') (by decide)]
    split
    · next hchars => exact absurd (List.cons.inj hchars).1 (by decide)
    · rw [hfields, Option.map_some, objectOf_texts]

/-- A plain value is read from what is written of it, at any level. -/
theorem readBack (v : Value) (h : v.isPlain = true) : ReadBack v := by
  induction v using Value.induction with
  | other => cases h
  | illFormed => cases h
  | outOfRange => cases h
  | null =>
    refine .of_succ fun level rounds rest hrest hrounds => ?_
    simp [write, value?, skipSpace, isSpace]
  | boolean b =>
    refine .of_succ fun level rounds rest hrest hrounds => ?_
    cases b <;> simp [write, value?, skipSpace, isSpace]
  | integer n =>
    -- a number of a plain value is natural and fits a word
    have hword : 0 ≤ n ∧ n.toNat ≤ maxWord := by
      simp only [Value.isPlain, Value.all, Value.word?] at h
      split at h
      · assumption
      · cases h
    refine .of_succ fun level rounds rest hrest hrounds => ?_
    obtain ⟨n, rfl⟩ := Int.eq_ofNat_of_zero_le hword.1
    have htext : (write level (.integer n)).toList = Nat.toDigits 10 n := Nat.toList_repr
    rw [htext]
    exact value?_integer hword.2 hrest
  | text s =>
    refine .of_succ fun level rounds rest hrest hrounds => ?_
    simp only [write, toList_writeString, List.cons_append, List.append_assoc]
    rw [value?, skipSpace_cons (by decide)]
    simp only [List.nil_append, string?_write, Option.map_some]
    rfl
  | list items ih => exact readBack_list fun v hv => ih v hv (Value.isPlain_list.1 h v hv)
  | object fields ih => exact readBack_object fun f hf => ih f hf (Value.isPlain_object.1 h f hf)

/-- A plain value is read from its text. -/
theorem parse?_render {v : Value} (h : v.isPlain = true) : parse? (render v) = some v := by
  have hread := readBack v h 0 (2 * (render v).toList.length + 2) [] EndsNumber.nil (by
    rw [List.append_nil]
    exact Nat.le_refl _)
  rw [List.append_nil] at hread
  simp only [parse?, render] at hread ⊢
  rw [hread]
  rfl

end MetricQuery.Json
