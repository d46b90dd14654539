import MetricQuery.Text.Hexadecimal

/-!
# Escapes — texts whose characters may be written behind a backslash

A text of the form `E'…'` knows the usual letters for control characters, bytes in octal or
hexadecimal digits, and code points in four or eight hexadecimal digits. A text of the form `U&'…'`
knows code points only, in four or six digits. In both a doubled quote stands for one quote and a
single one ends the text. Each reader answers with the text and with what follows its end; `none`
means that the text is left open or that an escape stands for no character.
-/

namespace MetricQuery.Sql

open MetricQuery.Text

/-! ## `E'…'` -/

/-- The value of an octal digit. -/
def octalValue? (c : Char) : Option Nat :=
  if '0' ≤ c ∧ c ≤ '7' then some (c.toNat - '0'.toNat) else none

/-- The first characters that have a value as digits, at most `count` of them. -/
def leadingDigits (value? : Char → Option Nat) (count : Nat) (cs : List Char) : List Nat :=
  ((cs.take count).map value?).takeWhile Option.isSome |>.filterMap id

/-- The number that digits write in a base. -/
def numberOfDigits (base : Nat) (digits : List Nat) : Nat :=
  digits.foldl (fun n d => n * base + d) 0

/-- The character of a byte, which has to be one of ASCII. Of a number beyond a byte the last eight
bits count. -/
def charOfByte? (n : Nat) : Option Char :=
  if n % 256 ≤ 127 then some (Char.ofNat (n % 256)) else none

/-- The character behind `\x` in up to two hexadecimal digits; without a digit it is the letter
itself. -/
def hexByte? (cs : List Char) : Option (Char × List Char) :=
  match leadingDigits hexValue? 2 cs with
  | [] => some ('x', cs)
  | digits => (charOfByte? (numberOfDigits 16 digits)).map (·, cs.drop digits.length)

/-- The character whose code point the next `count` characters write in hexadecimal digits. A plus
sign may stand in the place of the first one. -/
def codePoint? (count : Nat) (cs : List Char) : Option (Char × List Char) :=
  let read? (signed : Nat) (cs : List Char) : Option (Char × List Char) := do
    let (n, rest) ← takeHex? (count - signed) cs
    return (← charOfCode? n, rest)
  match cs with
  | '+' :: rest => read? 1 rest
  | cs => read? 0 cs

/-- The character of an escape, its backslash being read. No escape stands for the character
zero. -/
def escape? (cs : List Char) : Option (Char × List Char) := do
  let (c, rest) ← match cs with
    | [] => none
    | 'b' :: rest => some ('\x08', rest)
    | 'f' :: rest => some ('\x0c', rest)
    | 'n' :: rest => some ('\n', rest)
    | 'r' :: rest => some ('\r', rest)
    | 't' :: rest => some ('\t', rest)
    | 'u' :: rest => codePoint? 4 rest
    | 'U' :: rest => codePoint? 8 rest
    | 'x' :: rest => hexByte? rest
    | c :: rest =>
      match leadingDigits octalValue? 3 (c :: rest) with
      | [] => some (c, rest)
      | digits =>
        (charOfByte? (numberOfDigits 8 digits)).map (·, (c :: rest).drop digits.length)
  if c.toNat = 0 then none else some (c, rest)

/-- The rest of a text of the form `E'…'`. -/
def escapedRest? : (fuel : Nat) → List Char → Option (List Char × List Char)
  | 0, _ => none
  | fuel + 1, cs =>
    match cs with
    | [] => none
    | '\'' :: '\'' :: rest => do
      let (more, after) ← escapedRest? fuel rest
      return ('\'' :: more, after)
    | '\'' :: rest => some ([], rest)
    | '\\' :: rest => do
      let (c, rest) ← escape? rest
      let (more, after) ← escapedRest? fuel rest
      return (c :: more, after)
    | c :: rest => do
      let (more, after) ← escapedRest? fuel rest
      return (c :: more, after)

/-- Reads a text of the form `E'…'` behind its opening quote. -/
def scanEscaped? (cs : List Char) : Option (List Char × List Char) :=
  escapedRest? (cs.length + 1) cs

/-! ## `U&'…'` -/

/-- The character whose code point the next `count` characters write in hexadecimal digits. -/
def plainCodePoint? (count : Nat) (cs : List Char) : Option (Char × List Char) := do
  let (n, rest) ← takeHex? count cs
  return (← charOfCode? n, rest)

/-- The rest of a text of the form `U&'…'`. -/
def unicodeRest? : (fuel : Nat) → List Char → Option (List Char × List Char)
  | 0, _ => none
  | fuel + 1, cs =>
    match cs with
    | [] => none
    | '\'' :: '\'' :: rest => do
      let (more, after) ← unicodeRest? fuel rest
      return ('\'' :: more, after)
    | '\'' :: rest => some ([], rest)
    | '\\' :: rest => do
      let (c, rest) ← match rest with
        | '\\' :: rest => some ('\\', rest)
        | '+' :: rest => plainCodePoint? 6 rest
        | rest => plainCodePoint? 4 rest
      let (more, after) ← unicodeRest? fuel rest
      return (c :: more, after)
    | c :: rest => do
      let (more, after) ← unicodeRest? fuel rest
      return (c :: more, after)

/-- Reads a text of the form `U&'…'` behind its opening quote. -/
def scanUnicode? (cs : List Char) : Option (List Char × List Char) :=
  unicodeRest? (cs.length + 1) cs

example : scanEscaped? "\\x41\\103\\q''b'c".toList = some ("ACq'b".toList, ['c']) := by decide
example : scanEscaped? "\\0'".toList = none := by decide
example : scanUnicode? "\\0041\\\\'".toList = some (['A', '\\'], []) := by decide

end MetricQuery.Sql
