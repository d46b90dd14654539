/-!
# UTF-16 — a text as the units of its 16-bit encoding

A character up to U+FFFF is one unit; one above is two, each with ten of its bits.
-/

namespace MetricQuery.Text

/-- The units that encode a character. -/
def charUnits16 (c : Char) : List Nat :=
  let n := c.toNat
  if n < 0x10000 then [n]
  else [0xD800 + (n - 0x10000) / 0x400, 0xDC00 + (n - 0x10000) % 0x400]

/-- The units that encode a text. -/
def units16 (s : String) : List Nat :=
  s.toList.flatMap charUnits16

example : units16 "a😀" = [0x61, 0xD83D, 0xDE00] := by decide

end MetricQuery.Text
