/-!
# Hexadecimal digits — code points as text
-/

namespace MetricQuery.Text

/-- The value of a hexadecimal digit in either case. -/
def hexValue? (c : Char) : Option Nat :=
  if c.isDigit then some (c.toNat - '0'.toNat)
  else if 'a' ≤ c ∧ c ≤ 'f' then some (c.toNat - 'a'.toNat + 10)
  else if 'A' ≤ c ∧ c ≤ 'F' then some (c.toNat - 'A'.toNat + 10)
  else none

/-- The value of a sequence of hexadecimal digits. -/
def hexNumber? (cs : List Char) : Option Nat :=
  cs.foldlM (fun n c => (hexValue? c).map (n * 16 + ·)) 0

/-- The number that the next `count` characters write in hexadecimal digits, and what follows. -/
def takeHex? (count : Nat) (cs : List Char) : Option (Nat × List Char) :=
  let (digits, rest) := cs.splitAt count
  if digits.length = count then (hexNumber? digits).map (·, rest) else none

/-- The character of a code point; surrogates and numbers beyond the last code point are none. -/
def charOfCode? (n : Nat) : Option Char :=
  if n.isValidChar then some (Char.ofNat n) else none

/-- The last `count` hexadecimal digits of a number, in lower case. -/
def hexDigits (count n : Nat) : List Char :=
  match count with
  | 0 => []
  | count + 1 => hexDigits count (n / 16) ++ [Nat.digitChar (n % 16)]

/-- Four lower-case hexadecimal digits of a number below 65536. -/
def hexText4 (n : Nat) : String :=
  String.ofList (hexDigits 4 n)

example : hexText4 0x1f = "001f" := by decide

theorem length_hexDigits (count n : Nat) : (hexDigits count n).length = count := by
  induction count generalizing n with
  | zero => rfl
  | succ count ih => simp [hexDigits, ih]

end MetricQuery.Text
