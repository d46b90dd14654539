/-!
# Natural numbers as text — decimal digits that fit a machine word
-/

namespace MetricQuery.Text

/-- The largest number of a 64-bit word. -/
def maxWord : Nat := 0xFFFFFFFFFFFFFFFF

/-- The number that a sequence of decimal digits stands for. -/
def digitsValue (cs : List Char) : Nat :=
  cs.foldl (fun n c => n * 10 + (c.toNat - '0'.toNat)) 0

/-- The number that a text of decimal digits stands for, if it has a digit and nothing else and the
number fits a 64-bit word. A plus sign may stand in front. -/
def readWord? (s : String) : Option Nat :=
  let digits := match s.toList with
    | '+' :: rest => rest
    | cs => cs
  if digits.isEmpty || !digits.all Char.isDigit then none
  else
    let n := digitsValue digits
    if n ≤ maxWord then some n else none

example : readWord? "0012" = some 12 := by decide
example : readWord? "10." = none := by decide
example : readWord? "18446744073709551616" = none := by decide

end MetricQuery.Text
