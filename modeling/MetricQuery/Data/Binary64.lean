import MetricQuery.Text.Natural

/-!
# Binary64 — how large a 64-bit floating-point number may be

Whether a decimal number is too large for a floating-point number of 64 bits, which has 53 binary
digits and an exponent of at most 1023. All of it is done in whole numbers. One answer is exact; the
other is that of a product of two rounded factors, which may differ at the very end of the range.
-/

namespace MetricQuery.Binary64

open MetricQuery.Text

/-- The least number that is rounded up beyond the range: half a unit behind the greatest one. -/
def bound : Nat :=
  Nat.pow 2 1024 - Nat.pow 2 970

/-- The closest number of 53 binary digits; of two, the one with an even last digit. -/
def round (n : Nat) : Nat :=
  let unit := Nat.pow 2 (n.log2 - 52)
  let (quotient, rest) := (n / unit, n % unit)
  if unit < 2 * rest || (unit = 2 * rest && quotient % 2 = 1) then (quotient + 1) * unit
  else quotient * unit

/-- The number of decimal digits of a number, or one more for zero. -/
def decimalDigits (n : Nat) : Nat :=
  (Nat.toDigits 10 n).length

/-- Whether `mantissa · 10 ^ exponent` lies beyond the range. -/
def exceeds (mantissa : Nat) (exponent : Int) : Bool :=
  let size := decimalDigits mantissa + exponent
  if mantissa = 0 || size ≤ 308 then false
  else if 310 ≤ size then true
  else if 0 ≤ exponent then bound ≤ mantissa * Nat.pow 10 exponent.toNat
  else bound * Nat.pow 10 exponent.natAbs ≤ mantissa

/-- Whether the product of `mantissa` and `10 ^ exponent`, both of them rounded first, lies beyond
the range. A power beyond the range makes any product so. -/
def productExceeds (mantissa : Nat) (exponent : Int) : Bool :=
  if mantissa = 0 || exponent < 0 then false
  else 308 < exponent || bound ≤ round mantissa * round (Nat.pow 10 exponent.toNat)

/-! ## Mantissas that fit a word -/

/-- A mantissa as it is read digit by digit, and the power of ten that it lacks. -/
structure Significand where
  mantissa : Nat
  exponent : Int

namespace Significand

/-- The mantissa with a further digit, as long as it fits a 64-bit word. -/
def extended? (s : Significand) (digit : Char) : Option Nat :=
  let n := s.mantissa * 10 + digitsValue [digit]
  if n ≤ maxWord then some n else none

/-- What whole digits give. Digits for which there is no room count as zeros, and so do those behind
them. -/
def addWhole (s : Significand) : List Char → Significand
  | [] => s
  | c :: rest =>
    match s.extended? c with
    | some n => addWhole { s with mantissa := n } rest
    | none => { s with exponent := s.exponent + rest.length + 1 }

/-- What the digits of a fraction give. Digits for which there is no room are left out, and so are
those behind them. -/
def addFraction (s : Significand) : List Char → Significand
  | [] => s
  | c :: rest =>
    match s.extended? c with
    | some n => addFraction ⟨n, s.exponent - 1⟩ rest
    | none => s

/-- The significand of a number by its digits and its exponent. -/
def ofDigits (whole fraction : List Char) (exponent : Int) : Significand :=
  let s := (addWhole ⟨0, 0⟩ whole).addFraction fraction
  { s with exponent := s.exponent + exponent }

/-- Whether the number lies beyond the range, once mantissa and power are rounded. -/
def exceeds (s : Significand) : Bool :=
  productExceeds s.mantissa s.exponent

end Significand

example : Binary64.exceeds 17976931348623157 292 = false := by decide +kernel
example : Binary64.exceeds 17976931348623159 292 = true := by decide +kernel
example : productExceeds 1 309 = true := by decide
example : round 9007199254740993 = 9007199254740992 := by decide +kernel

end MetricQuery.Binary64
