import MetricQuery.Text.CaseTable
import MetricQuery.Text.CharClass

/-!
# Letter case — lower-case and upper-case forms of a text

Names are compared by their lower-case forms and keywords are recognised by their upper-case form.
Both maps are the full ones: a character may become several (`ß` becomes `SS`, `İ` becomes `i̇`),
and a capital sigma that ends a word becomes `ς`. The maps that touch ASCII letters only are
`asciiLower` and `sameIgnoringAsciiCase`.
-/

namespace MetricQuery.Text

/-- The character's image under the first run that moves it, or the character itself. -/
def shiftCase (runs : List CaseRun) (c : Char) : Char :=
  match runs.find? (·.contains c.toNat) with
  | some run => Char.ofNat (run.apply c.toNat)
  | none => c

/-- The characters that replace `c` when it is taken to another case. -/
def mapCase (runs : List CaseRun) (expansions : List (Nat × List Nat)) (c : Char) : List Char :=
  match expansions.find? (·.1 == c.toNat) with
  | some (_, codes) => codes.map Char.ofNat
  | none => [shiftCase runs c]

/-- The lower-case form of one character, apart from its neighbours. -/
def lowerChar (c : Char) : List Char :=
  if c.toNat < 0x80 then [c.toLower] else mapCase lowerRuns lowerExpansions c

/-- The upper-case form of one character. -/
def upperChar (c : Char) : List Char :=
  if c.toNat < 0x80 then [c.toUpper] else mapCase upperRuns upperExpansions c

/-- Whether the first character that case rules do not look through has case. -/
def cased? (cs : List Char) : Bool :=
  match cs.dropWhile isCaseIgnorable with
  | c :: _ => isCased c
  | [] => false

/-- Lower case, given the characters already passed (nearest first). A capital sigma after a cased
character and not before one stands at the end of a word. -/
def lowerFrom (before : List Char) : List Char → List Char
  | [] => []
  | c :: rest =>
    let form := if c = 'Σ' then [if cased? before && !cased? rest then 'ς' else 'σ']
      else lowerChar c
    form ++ lowerFrom (c :: before) rest

/-- The lower-case form of a text. -/
def lower (s : String) : String :=
  String.ofList (lowerFrom [] s.toList)

/-- The upper-case form of a text. -/
def upper (s : String) : String :=
  String.ofList (s.toList.flatMap upperChar)

/-- The text with its ASCII capitals made small. -/
def asciiLower (s : String) : String :=
  String.ofList (s.toList.map Char.toLower)

/-- Whether two texts differ at most in the case of ASCII letters. -/
def sameIgnoringAsciiCase (s t : String) : Bool :=
  asciiLower s == asciiLower t

/-- Whether two names are the same name: their lower-case forms agree. -/
def sameName (s t : String) : Bool :=
  lower s == lower t

@[simp]
theorem sameName_self (s : String) : sameName s s = true := by
  simp [sameName]

theorem sameName_comm (s t : String) : sameName s t = sameName t s :=
  BEq.comm

end MetricQuery.Text
