import Mathlib.Data.List.TakeWhile
import MetricQuery.Config.Template

/-!
# Expansion — what a template is made of, and what it becomes

A template falls into tokens in one way: a reference goes as far as it can, and every other
character is a token of its own. Expansion puts the values in the places of the references, or names
the first variable that has none. So it goes part by part wherever no reference is cut in two.
-/

namespace MetricQuery.Template

open MetricQuery.Text

/-! ## Tokens -/

/-- A piece of a template as it is written. -/
inductive Token where
  | char (c : Char)
  /-- A reference to a variable without braces. -/
  | named (name : List Char)
  /-- A reference between braces, of which the closing one may be missing. -/
  | braced (name : List Char) (closed : Bool)
  deriving DecidableEq

namespace Token

/-- The characters of the token. -/
def text : Token → List Char
  | char c => [c]
  | named name => '$' :: name
  | braced name closed => '$' :: '{' :: (name ++ if closed then ['}'] else [])

/-- What the token stands for. -/
def piece : Token → Piece
  | char c => .char c
  | named name => .variable (String.ofList name)
  | braced name _ => .variable (String.ofList name)

/-- Whether the token may stand in front of a text. A dollar sign is a token only if no reference
begins with it, a name ends where no character of names follows, and a closing brace is only missing
at the end. -/
def Fits : Token → List Char → Prop
  | char c, rest => c = '$' → ∀ d ∈ rest.head?, d ≠ '{' ∧ isNameChar d = false
  | named name, rest => name ≠ [] ∧ (∀ c ∈ name, isNameChar c = true)
      ∧ ∀ d ∈ rest.head?, isNameChar d = false
  | braced name closed, rest => '}' ∉ name ∧ (closed = false → rest = [])

/-- Whether the token refers to a variable. -/
def IsReference : Token → Prop
  | char _ => False
  | named _ => True
  | braced _ _ => True

end Token

/-- Whether a text falls into the tokens. -/
inductive Spells : List Token → List Char → Prop where
  | nil : Spells [] []
  | cons {t : Token} {ts : List Token} {rest : List Char} (fits : t.Fits rest)
      (more : Spells ts rest) : Spells (t :: ts) (t.text ++ rest)

/-- The characters of tokens in a row. -/
def written (ts : List Token) : List Char :=
  ts.flatMap Token.text

/-- Whether the place between two texts is inside a reference of the whole. -/
def CutsReference (a b : List Char) : Prop :=
  ∃ before t after, Spells (before ++ t :: after) (a ++ b) ∧ t.IsReference
    ∧ (written before).length < a.length ∧ a.length < (written before ++ t.text).length

variable {t u : Token} {ts us : List Token} {a b cs name rest : List Char}

theorem isNameChar_openingBrace : isNameChar '{' = false := by decide

theorem Token.length_text_pos (t : Token) : 0 < t.text.length := by
  cases t <;> exact Nat.succ_pos _

/-- There is no place inside a character. -/
theorem Token.isReference_of_lt (h : 1 < t.text.length) : t.IsReference := by
  cases t with
  | char c => exact absurd h (Nat.lt_irrefl 1)
  | named name => trivial
  | braced name closed => trivial

/-- A token that may stand in front of a text may stand in front of its first part. -/
theorem Token.Fits.left (h : t.Fits (a ++ b)) : t.Fits a := by
  have hhead : ∀ d ∈ a.head?, d ∈ (a ++ b).head? := by
    intro d hd
    rw [List.head?_append, hd, Option.some_or]
    rfl
  cases t with
  | char c => exact fun hc d hd => h hc d (hhead d hd)
  | named name => exact ⟨h.1, h.2.1, fun d hd => h.2.2 d (hhead d hd)⟩
  | braced name closed => exact ⟨h.1, fun hopen => (List.append_eq_nil_iff.1 (h.2 hopen)).1⟩

/-! ## One way to fall into tokens -/

theorem takeWhile_name (hname : ∀ c ∈ name, isNameChar c = true)
    (hrest : ∀ d ∈ rest.head?, isNameChar d = false) :
    (name ++ rest).takeWhile isNameChar = name ∧ (name ++ rest).dropWhile isNameChar = rest := by
  rw [List.takeWhile_append_of_pos hname, List.dropWhile_append_of_pos hname]
  cases rest with
  | nil => simp
  | cons d rest => simp [hrest d rfl]

theorem takeWhile_braced (hname : '}' ∉ name) {closed : Bool} (hopen : closed = false → rest = []) :
    (name ++ (if closed then ['}'] else []) ++ rest).takeWhile (· ≠ '}') = name
      ∧ ((name ++ (if closed then ['}'] else []) ++ rest).dropWhile (· ≠ '}')).drop 1 = rest := by
  have hother : ∀ c ∈ name, decide (c ≠ '}') = true := fun c hc =>
    decide_eq_true fun heq => hname (heq ▸ hc)
  rw [List.append_assoc, List.takeWhile_append_of_pos hother, List.dropWhile_append_of_pos hother]
  cases closed with
  | true => simp
  | false => simp [hopen rfl]

/-- A name does not begin with a brace. -/
theorem name_append_ne (hne : name ≠ []) (hname : ∀ c ∈ name, isNameChar c = true)
    (rest tail : List Char) : name ++ rest ≠ '{' :: tail := by
  intro heq
  cases name with
  | nil => exact hne rfl
  | cons c name =>
    have hc := hname c List.mem_cons_self
    rw [(List.cons.inj heq).1, isNameChar_openingBrace] at hc
    cases hc

/-- Where a character is a token, every token that may stand there is this one. -/
theorem Token.eq_char_of_text_append {c : Char} (ht : (char c).Fits a) (hu : u.Fits b)
    (h : c :: a = u.text ++ b) : u = char c ∧ a = b := by
  cases u with
  | char d =>
    obtain ⟨rfl, rfl⟩ := List.cons.inj h
    exact ⟨rfl, rfl⟩
  -- a character that is a dollar sign has nothing behind it that begins a name or opens a brace
  | named name =>
    obtain ⟨rfl, rfl⟩ := List.cons.inj h
    obtain ⟨hne, hname, -⟩ := hu
    cases name with
    | nil => exact absurd rfl hne
    | cons d name =>
      have hd := (ht rfl d rfl).2
      rw [hname d List.mem_cons_self] at hd
      cases hd
  | braced name closed =>
    obtain ⟨rfl, rfl⟩ := List.cons.inj h
    exact absurd rfl (ht rfl '{' rfl).1

/-- At each place only one token may stand. -/
theorem Token.eq_of_text_append (ht : t.Fits a) (hu : u.Fits b) (h : t.text ++ a = u.text ++ b) :
    t = u ∧ a = b := by
  -- a token of one kind never begins like one of another kind, given what may stand behind each
  cases t with
  | char c =>
    obtain ⟨rfl, rfl⟩ := eq_char_of_text_append ht hu h
    exact ⟨rfl, rfl⟩
  | named name =>
    cases u with
    | char c =>
      obtain ⟨heq, rfl⟩ := eq_char_of_text_append hu ht h.symm
      exact ⟨heq, rfl⟩
    | named other =>
      have hrest : name ++ a = other ++ b := (List.cons.inj h).2
      have htake := takeWhile_name ht.2.1 ht.2.2
      have hother := takeWhile_name hu.2.1 hu.2.2
      rw [hrest] at htake
      exact ⟨congrArg named (htake.1.symm.trans hother.1), htake.2.symm.trans hother.2⟩
    | braced other closed => exact absurd (List.cons.inj h).2 (name_append_ne ht.1 ht.2.1 _ _)
  | braced name closed =>
    cases u with
    | char c =>
      obtain ⟨heq, rfl⟩ := eq_char_of_text_append hu ht h.symm
      exact ⟨heq, rfl⟩
    | named other => exact absurd (List.cons.inj h).2.symm (name_append_ne hu.1 hu.2.1 _ _)
    | braced other closed' =>
      have hrest : name ++ (if closed then ['}'] else []) ++ a
          = other ++ (if closed' then ['}'] else []) ++ b :=
        (List.cons.inj (List.cons.inj h).2).2
      have htake := takeWhile_braced ht.1 ht.2
      have hother := takeWhile_braced hu.1 hu.2
      rw [hrest] at htake
      obtain rfl : name = other := htake.1.symm.trans hother.1
      obtain rfl : a = b := htake.2.symm.trans hother.2
      have hclosed : (if closed then ['}'] else []) = if closed' then ['}'] else [] :=
        List.append_cancel_left (List.append_cancel_right hrest)
      cases closed <;> cases closed' <;> simp_all

theorem Spells.unique (hts : Spells ts cs) (hus : Spells us cs) : us = ts := by
  -- a token is never empty, so that a spelling that ends and one that goes on differ
  induction hts generalizing us with
  | nil =>
    generalize hcs : ([] : List Char) = cs at hus
    cases hus with
    | nil => rfl
    | cons fits more =>
      have hpos := Token.length_text_pos ‹Token›
      have hlength := congrArg List.length hcs
      simp only [List.length_nil, List.length_append] at hlength
      omega
  | @cons t ts rest fits more ih =>
    generalize hcs : t.text ++ rest = cs at hus
    cases hus with
    | nil =>
      have hpos := t.length_text_pos
      have hlength := congrArg List.length hcs
      simp only [List.length_nil, List.length_append] at hlength
      omega
    | cons fits' more' =>
      obtain ⟨rfl, rfl⟩ := Token.eq_of_text_append fits fits' hcs
      rw [ih more']

/-- A text that is not empty begins with a token. -/
theorem exists_token (c : Char) (cs : List Char) :
    ∃ t rest, Token.Fits t rest ∧ c :: cs = t.text ++ rest := by
  by_cases hc : c ≠ '$'
  · exact ⟨.char c, cs, fun heq => absurd heq hc, rfl⟩
  obtain rfl : c = '$' := Decidable.of_not_not hc
  by_cases hbrace : ∃ tail, cs = '{' :: tail
  · obtain ⟨tail, rfl⟩ := hbrace
    have hname : '}' ∉ tail.takeWhile (· ≠ '}') := fun hmem => by
      simpa using List.mem_takeWhile_imp hmem
    have hsplit := List.takeWhile_append_dropWhile (p := (· ≠ '}')) (l := tail)
    cases hdrop : tail.dropWhile (· ≠ '}') with
    | nil =>
      refine ⟨.braced (tail.takeWhile (· ≠ '}')) false, [], ⟨hname, fun _ => rfl⟩, ?_⟩
      rw [hdrop, List.append_nil] at hsplit
      simp only [Token.text, Bool.false_eq_true, if_false, List.append_nil, hsplit]
    | cons d rest =>
      -- what ends the name is the closing brace
      have hd : d = '}' := by
        have hhead := List.head?_dropWhile_not (· ≠ '}') tail
        rw [hdrop] at hhead
        simpa using hhead
      refine ⟨.braced (tail.takeWhile (· ≠ '}')) true, rest, ⟨hname, nofun⟩, ?_⟩
      rw [hdrop, hd] at hsplit
      simp only [Token.text, if_true, List.cons_append, List.append_assoc, List.nil_append, hsplit]
  · by_cases hempty : cs.takeWhile isNameChar = []
    · refine ⟨.char '$', cs, fun _ d hd => ⟨?_, ?_⟩, rfl⟩
      · rintro rfl
        cases cs with
        | nil => cases hd
        | cons e cs => exact hbrace ⟨cs, by rw [Option.some.inj hd]⟩
      · cases cs with
        | nil => cases hd
        | cons e cs =>
          obtain rfl := Option.some.inj hd
          rw [List.takeWhile_cons] at hempty
          split at hempty
          · cases hempty
          · next hno => exact Bool.eq_false_iff.2 hno
    · refine ⟨.named (cs.takeWhile isNameChar), cs.dropWhile isNameChar,
        ⟨hempty, fun c hc => List.mem_takeWhile_imp hc, ?_⟩, ?_⟩
      · have hhead := List.head?_dropWhile_not isNameChar cs
        intro d hd
        rw [hd] at hhead
        simpa using hhead
      · simp [Token.text, List.takeWhile_append_dropWhile]

theorem exists_spells (cs : List Char) : ∃ ts, Spells ts cs := by
  induction hlength : cs.length using Nat.strong_induction_on generalizing cs with
  | _ n ih =>
    cases cs with
    | nil => exact ⟨[], .nil⟩
    | cons c cs =>
      obtain ⟨t, rest, hfits, heq⟩ := exists_token c cs
      have hshorter : rest.length < n := by
        have hpos := t.length_text_pos
        rw [← hlength, heq, List.length_append]
        omega
      obtain ⟨ts, hts⟩ := ih _ hshorter rest rfl
      exact ⟨t :: ts, heq ▸ .cons hfits hts⟩

/-- The first piece of a text is that of the token that it begins with. -/
theorem pieces_text_append (h : t.Fits rest) :
    pieces (t.text ++ rest) = t.piece :: pieces rest := by
  cases t with
  | char c =>
    show pieces (c :: rest) = _
    -- a dollar sign alone is text only if what follows begins no reference
    by_cases hc : c = '$'
    · subst hc
      cases rest with
      | nil => simp [pieces, Token.piece]
      | cons d rest =>
        obtain ⟨hbrace, hname⟩ := h rfl d rfl
        rw [pieces.eq_3 _ (fun _ heq => hbrace (List.cons.inj heq).1)]
        simp [hname, Token.piece]
    · rw [pieces.eq_4 _ _ (fun _ heq => absurd heq hc) (fun heq => absurd heq hc)]
      rfl
  | named name =>
    obtain ⟨hne, hname, hrest⟩ := h
    obtain ⟨htake, hdrop⟩ := takeWhile_name hname hrest
    show pieces ('$' :: (name ++ rest)) = _
    rw [pieces.eq_3 _ (name_append_ne hne hname rest), htake, hdrop]
    simp [hne, Token.piece]
  | braced name closed =>
    obtain ⟨htake, hdrop⟩ := takeWhile_braced h.1 h.2
    show pieces ('$' :: '{' :: (name ++ (if closed then ['}'] else []) ++ rest)) = _
    rw [pieces, htake, hdrop]
    rfl

theorem pieces_of_spells (h : Spells ts cs) : pieces cs = ts.map Token.piece := by
  induction h with
  | nil => simp [pieces]
  | cons fits more ih => rw [pieces_text_append fits, ih, List.map_cons]

/-! ## Values -/

variable {value? : String → Option String} {p : Piece} {ps : List Piece} {m : MissingVariable}
  {text template : String}

/-- Whether nothing is missing for a piece: a variable has a value. -/
def Piece.IsSet (value? : String → Option String) : Piece → Prop
  | .char _ => True
  | .variable name => ∃ value, value? name = some value

/-- What a piece becomes, if nothing is missing for it. -/
def Piece.value (value? : String → Option String) : Piece → String
  | .char c => c.toString
  | .variable name => (value? name).getD ""

/-- The text of pieces in a row. -/
def expandPieces (value? : String → Option String) (ps : List Piece) :
    Except MissingVariable String := do
  return String.join (← ps.mapM (Piece.expand value?))

theorem Piece.expand_of_isSet (h : p.IsSet value?) : p.expand value? = .ok (p.value value?) := by
  obtain c | name := p
  · rfl
  · obtain ⟨value, hvalue⟩ := h
    rw [expand, Piece.value, hvalue]
    rfl

theorem Piece.isSet_or_missing (value? : String → Option String) (p : Piece) :
    p.IsSet value? ∨ ∃ name, p = .variable name ∧ value? name = none := by
  obtain c | name := p
  · exact .inl trivial
  · cases hvalue : value? name with
    | none => exact .inr ⟨name, rfl, hvalue⟩
    | some value => exact .inl ⟨value, hvalue⟩

theorem expandPieces_append (value? : String → Option String) (ps qs : List Piece) :
    expandPieces value? (ps ++ qs)
      = do return (← expandPieces value? ps) ++ (← expandPieces value? qs) := by
  unfold expandPieces
  rw [List.mapM_append]
  cases ps.mapM (Piece.expand value?) with
  | error m => rfl
  | ok texts =>
    cases qs.mapM (Piece.expand value?) with
    | error m => rfl
    | ok more => exact congrArg Except.ok String.join_append

theorem expandPieces_of_isSet (h : ∀ p ∈ ps, p.IsSet value?) :
    expandPieces value? ps = .ok (String.join (ps.map (Piece.value value?))) := by
  induction ps with
  | nil => rfl
  | cons p ps ih =>
    have hhead := Piece.expand_of_isSet (h p List.mem_cons_self)
    have hsingle : expandPieces value? [p] = .ok (p.value value?) := by
      simp [expandPieces, hhead, String.join, pure, Except.pure, bind, Except.bind]
    rw [← List.singleton_append, expandPieces_append, hsingle,
      ih fun q hq => h q (List.mem_cons_of_mem _ hq), List.singleton_append, List.map_cons,
      String.join_cons]
    rfl

/-- The first variable without a value is the one that is reported. -/
theorem expandPieces_of_missing {before after : List Piece} {name : String}
    (hbefore : ∀ p ∈ before, p.IsSet value?) (hname : value? name = none) :
    expandPieces value? (before ++ .variable name :: after) = .error ⟨name⟩ := by
  rw [expandPieces_append, expandPieces_of_isSet hbefore]
  simp [expandPieces, Piece.expand, hname, bind, Except.bind]

theorem isSet_or_missing (value? : String → Option String) (ps : List Piece) :
    (∀ p ∈ ps, p.IsSet value?) ∨ ∃ before name after, ps = before ++ .variable name :: after
      ∧ (∀ p ∈ before, p.IsSet value?) ∧ value? name = none := by
  induction ps with
  | nil => exact .inl nofun
  | cons p ps ih =>
    rcases p.isSet_or_missing value? with hset | ⟨name, rfl, hname⟩
    · rcases ih with hall | ⟨before, name, after, rfl, hbefore, hname⟩
      · exact .inl (List.forall_mem_cons.2 ⟨hset, hall⟩)
      · exact .inr ⟨p :: before, name, after, rfl, List.forall_mem_cons.2 ⟨hset, hbefore⟩, hname⟩
    · exact .inr ⟨[], name, ps, rfl, nofun, hname⟩

theorem expandPieces_eq_ok : expandPieces value? ps = .ok text
    ↔ (∀ p ∈ ps, p.IsSet value?) ∧ text = String.join (ps.map (Piece.value value?)) := by
  constructor
  · intro h
    rcases isSet_or_missing value? ps with hall | ⟨before, name, after, rfl, hbefore, hname⟩
    · rw [expandPieces_of_isSet hall] at h
      exact ⟨hall, (Except.ok.inj h).symm⟩
    · rw [expandPieces_of_missing hbefore hname] at h
      cases h
  · rintro ⟨hall, rfl⟩
    exact expandPieces_of_isSet hall

theorem expandPieces_eq_error : expandPieces value? ps = .error m
    ↔ ∃ before after, ps = before ++ .variable m.name :: after
      ∧ (∀ p ∈ before, p.IsSet value?) ∧ value? m.name = none := by
  constructor
  · intro h
    rcases isSet_or_missing value? ps with hall | ⟨before, name, after, rfl, hbefore, hname⟩
    · rw [expandPieces_of_isSet hall] at h
      cases h
    · rw [expandPieces_of_missing hbefore hname] at h
      obtain rfl := Except.error.inj h
      exact ⟨before, after, rfl, hbefore, hname⟩
  · rintro ⟨before, after, rfl, hbefore, hname⟩
    exact expandPieces_of_missing hbefore hname

theorem expand_of_spells (h : Spells ts template.toList) :
    expand value? template = expandPieces value? (ts.map Token.piece) := by
  rw [← pieces_of_spells h]
  rfl

/-! ## Texts in two parts -/

theorem written_append (ts us : List Token) : written (ts ++ us) = written ts ++ written us :=
  List.flatMap_append

theorem spells_cons :
    Spells (t :: ts) cs ↔ ∃ rest, cs = t.text ++ rest ∧ t.Fits rest ∧ Spells ts rest := by
  constructor
  · intro h
    cases h with
    | cons fits more => exact ⟨_, rfl, fits, more⟩
  · rintro ⟨rest, rfl, fits, more⟩
    exact .cons fits more

theorem Spells.eq_written (h : Spells ts cs) : cs = written ts := by
  induction h with
  | nil => rfl
  | cons fits more ih => rw [ih, written, written, List.flatMap_cons]

/-- At a place between two tokens the text falls into two texts. -/
theorem Spells.of_append (h : Spells (ts ++ us) cs) :
    Spells ts (written ts) ∧ Spells us (written us) := by
  induction ts generalizing cs with
  | nil => exact ⟨.nil, h.eq_written ▸ h⟩
  | cons t ts ih =>
    rw [List.cons_append] at h
    obtain ⟨rest, rfl, fits, more⟩ := spells_cons.1 h
    obtain ⟨hts, hus⟩ := ih more
    rw [more.eq_written, written_append] at fits
    exact ⟨.cons fits.left hts, hus⟩

theorem CutsReference.cons (fits : t.Fits (a ++ b)) (h : CutsReference a b) :
    CutsReference (t.text ++ a) b := by
  obtain ⟨before, u, after, hspells, href, hbefore, hafter⟩ := h
  refine ⟨t :: before, u, after, ?_, href, ?_, ?_⟩
  · rw [List.append_assoc]
    exact .cons fits hspells
  · simpa [written] using hbefore
  · simpa [written] using hafter

/-- A place between two texts is between two tokens or inside a reference. -/
theorem Spells.boundary_or_cut (h : Spells ts (a ++ b)) :
    (∃ us vs, ts = us ++ vs ∧ written us = a ∧ written vs = b) ∨ CutsReference a b := by
  induction ts generalizing a with
  | nil =>
    obtain ⟨rfl, rfl⟩ := List.append_eq_nil_iff.1 h.eq_written
    exact .inl ⟨[], [], rfl, rfl, rfl⟩
  | cons t ts ih =>
    obtain ⟨rest, heq, fits, more⟩ := spells_cons.1 h
    rcases List.append_eq_append_iff.1 heq with ⟨tail, htext, rfl⟩ | ⟨a', rfl, rfl⟩
    · -- the token is not worked off at the place
      cases a with
      | nil => exact .inl ⟨[], t :: ts, rfl, rfl, h.eq_written.symm⟩
      | cons c a =>
        cases tail with
        | nil =>
          refine .inl ⟨[t], ts, rfl, ?_, more.eq_written.symm⟩
          simpa [written] using htext
        | cons d tail =>
          have hlong : (c :: a).length < t.text.length := by
            rw [htext, List.length_append]
            simp
          have hreference : t.IsReference := by
            refine t.isReference_of_lt ?_
            exact Nat.lt_of_le_of_lt (Nat.succ_le_succ (Nat.zero_le _)) hlong
          exact .inr ⟨[], t, ts, h, hreference, Nat.succ_pos _, by simpa [written] using hlong⟩
    · rcases ih more with ⟨us, vs, rfl, rfl, rfl⟩ | hcut
      · exact .inl ⟨t :: us, vs, rfl, by rw [written, List.flatMap_cons]; rfl, rfl⟩
      · exact .inr (hcut.cons fits)

theorem expand_append {left right : String} (h : ¬ CutsReference left.toList right.toList) :
    expand value? (left ++ right)
      = do return (← expand value? left) ++ (← expand value? right) := by
  obtain ⟨ts, hts⟩ := exists_spells (left ++ right).toList
  rw [String.toList_append] at hts
  obtain ⟨us, vs, rfl, hus, hvs⟩ := hts.boundary_or_cut.resolve_right h
  obtain ⟨hleft, hright⟩ := hts.of_append
  rw [hus] at hleft
  rw [hvs] at hright
  rw [← String.toList_append] at hts
  rw [expand_of_spells hts, expand_of_spells hleft, expand_of_spells hright, List.map_append,
    expandPieces_append]

/-- A text without dollar signs has no references. -/
theorem Spells.of_not_mem (h : '$' ∉ cs) : Spells (cs.map Token.char) cs := by
  induction cs with
  | nil => exact .nil
  | cons c cs ih =>
    rw [List.mem_cons, not_or] at h
    exact .cons (fun hc => absurd hc.symm h.1) (ih h.2)

theorem expand_of_not_mem (h : '$' ∉ template.toList) : expand value? template = .ok template := by
  rw [expand_of_spells (Spells.of_not_mem h), List.map_map, expandPieces_of_isSet]
  · refine congrArg Except.ok (String.toList_inj.1 ?_)
    have hchar : ∀ c : Char, (Token.char c).piece.value value? = c.toString := fun _ => rfl
    simp only [List.map_map, String.toList_join, List.flatMap_map, Function.comp_apply, hchar,
      Char.toString_eq_singleton, String.toList_singleton, List.flatMap_singleton']
  · intro p hp
    obtain ⟨c, -, rfl⟩ := List.mem_map.1 hp
    trivial

/-- What expansion does. The template falls into tokens in exactly one way. Expansion succeeds
exactly if every variable that they refer to has a value, and then the values stand as they are in
the places of the references, among the other characters; otherwise it names the first variable
without one. So a text without dollar signs stays, and two texts in a row may be expanded one by one
unless a reference is cut between them. -/
theorem expand_tokens (value? : String → Option String) (template : String) :
    ∃ tokens, Spells tokens template.toList
      ∧ (∀ others, Spells others template.toList → others = tokens)
      ∧ (∀ text, expand value? template = .ok text ↔ (∀ t ∈ tokens, t.piece.IsSet value?)
        ∧ text = String.join (tokens.map fun t => t.piece.value value?))
      ∧ (∀ m, expand value? template = .error m ↔ ∃ before t after, tokens = before ++ t :: after
        ∧ (∀ u ∈ before, u.piece.IsSet value?)
        ∧ t.piece = .variable m.name ∧ value? m.name = none)
      ∧ ('$' ∉ template.toList → expand value? template = .ok template)
      ∧ ∀ left right, template = left ++ right → ¬ CutsReference left.toList right.toList →
        expand value? template
          = do return (← expand value? left) ++ (← expand value? right) := by
  obtain ⟨tokens, htokens⟩ := exists_spells template.toList
  refine ⟨tokens, htokens, fun others => htokens.unique, fun text => ?_, fun m => ?_,
    expand_of_not_mem, ?_⟩
  · rw [expand_of_spells htokens, expandPieces_eq_ok, List.forall_mem_map, List.map_map]
    rfl
  · rw [expand_of_spells htokens, expandPieces_eq_error]
    -- the pieces are those of the tokens, and they are cut at the same place
    constructor
    · rintro ⟨before, after, heq, hbefore, hname⟩
      obtain ⟨before, rest, rfl, rfl, hrest⟩ := List.map_eq_append_iff.1 heq
      obtain ⟨t, after, rfl, ht, rfl⟩ := List.map_eq_cons_iff.1 hrest
      exact ⟨before, t, after, rfl, List.forall_mem_map.1 hbefore, ht, hname⟩
    · rintro ⟨before, t, after, rfl, hbefore, ht, hname⟩
      refine ⟨before.map Token.piece, after.map Token.piece, ?_, ?_, hname⟩
      · rw [List.map_append, List.map_cons, ht]
      · exact List.forall_mem_map.2 hbefore
  · rintro left right rfl hcut
    exact expand_append hcut

example : expand (fun name => if name = "A" then some "$B" else none) "$$A${A}-$"
    = .ok "$$B$B-$" := by
  cbv

end MetricQuery.Template
