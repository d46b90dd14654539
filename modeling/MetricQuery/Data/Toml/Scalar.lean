import MetricQuery.Data.Binary64
import MetricQuery.Data.Value
import MetricQuery.Text.Hexadecimal

/-!
# TOML scalars — strings, numbers, truth values and dates

A string is read up to its closing quotes. Every other scalar is a run of characters whose form
alone tells what it is: an integer in one of four bases, a number with a fraction or an exponent, a
truth value, or a date and time. A date and time is an object with one field of a name of its own,
which has the text of the date for its value.
-/

namespace MetricQuery.Toml

open MetricQuery.Text

/-- A blank inside a line. -/
def isBlankChar (c : Char) : Bool :=
  c = ' ' || c = '\t'

def skipBlanks (cs : List Char) : List Char :=
  cs.dropWhile isBlankChar

/-- A character that may stand in a comment or a string on one line. -/
def isPlain (c : Char) : Bool :=
  c = '\t' || (0x20 ≤ c.toNat && c.toNat ≠ 0x7f)

/-- What follows the end of a line. -/
def newLine? : List Char → Option (List Char)
  | '\n' :: rest => some rest
  | '\r' :: '\n' :: rest => some rest
  | _ => none

/-! ## Strings -/

/-- The character that an escape letter stands for. -/
def escaped? : Char → Option Char
  | '"' => some '"'
  | '\\' => some '\\'
  | 'b' => some '\x08'
  | 'f' => some '\x0c'
  | 'n' => some '\n'
  | 'r' => some '\r'
  | 't' => some '\t'
  | _ => none

/-- The character of an escape, its backslash being read. -/
def escape? : List Char → Option (Char × List Char)
  | 'u' :: rest => do
    let (n, rest) ← takeHex? 4 rest
    return (← charOfCode? n, rest)
  | 'U' :: rest => do
    let (n, rest) ← takeHex? 8 rest
    return (← charOfCode? n, rest)
  | letter :: rest => (escaped? letter).map (·, rest)
  | [] => none

/-- The rest of a string on one line with escapes. -/
def basicRest? : Nat → List Char → Option (List Char × List Char)
  | 0, _ => none
  | rounds + 1, cs =>
    match cs with
    | [] => none
    | '"' :: rest => some ([], rest)
    | '\\' :: rest => do
      let (c, rest) ← escape? rest
      let (more, rest) ← basicRest? rounds rest
      return (c :: more, rest)
    | c :: rest =>
      if isPlain c then do
        let (more, rest) ← basicRest? rounds rest
        return (c :: more, rest)
      else none

/-- A string on one line with escapes, its opening quote being read. -/
def basic? (cs : List Char) : Option (String × List Char) :=
  (basicRest? (cs.length + 1) cs).map fun (s, rest) => (String.ofList s, rest)

/-- A string on one line without escapes, its opening quote being read. -/
def literal? (cs : List Char) : Option (String × List Char) :=
  let (s, rest) := cs.span fun c => c ≠ '\'' && isPlain c
  match rest with
  | '\'' :: rest => some (String.ofList s, rest)
  | _ => none

/-- The quotes in front of the three that end a string: at most two. -/
def closing? (mark : Char) (cs : List Char) : Option (List Char × List Char) :=
  match cs with
  | a :: b :: c :: rest =>
    if a = mark && b = mark && c = mark then
      let extra := (rest.take 2).takeWhile (· = mark)
      some (extra, rest.drop extra.length)
    else none
  | _ => none

/-- What follows blanks and line ends. -/
def skipBlankLines : List Char → List Char
  | '\r' :: '\n' :: rest => skipBlankLines rest
  | c :: rest => if isBlankChar c || c = '\n' then skipBlankLines rest else c :: rest
  | [] => []

/-- What follows a backslash that ends its line: blanks and further lines are passed over. -/
def continued? (cs : List Char) : Option (List Char) :=
  (newLine? (skipBlanks cs)).map skipBlankLines

/-- The rest of a string over several lines. -/
def linesRest? (mark : Char) (escapes : Bool) : Nat → List Char → Option (List Char × List Char)
  | 0, _ => none
  | rounds + 1, cs =>
    match closing? mark cs with
    | some r => some r
    | none =>
      match newLine? cs with
      | some rest => do
        let (more, rest) ← linesRest? mark escapes rounds rest
        return ('\n' :: more, rest)
      | none =>
        match cs with
        | [] => none
        | c :: rest =>
          if c = '\\' && escapes then
            match continued? rest with
            | some rest => linesRest? mark escapes rounds rest
            | none => do
              let (c, rest) ← escape? rest
              let (more, rest) ← linesRest? mark escapes rounds rest
              return (c :: more, rest)
          else if isPlain c then do
            let (more, rest) ← linesRest? mark escapes rounds rest
            return (c :: more, rest)
          else none

/-- A string over several lines, its opening quotes being read. A line end right behind them does
not count. -/
def multiLine? (mark : Char) (escapes : Bool) (cs : List Char) : Option (String × List Char) :=
  let cs := (newLine? cs).getD cs
  (linesRest? mark escapes (cs.length + 1) cs).map fun (s, rest) => (String.ofList s, rest)

/-- A string of any of the four kinds. -/
def string? : List Char → Option (String × List Char)
  | '"' :: '"' :: '"' :: rest => multiLine? '"' true rest
  | '\'' :: '\'' :: '\'' :: rest => multiLine? '\'' false rest
  | '"' :: rest => basic? rest
  | '\'' :: rest => literal? rest
  | _ => none

/-! ## Numbers -/

/-- Digits without the underscores between them; an underscore has a digit on either side. -/
def ungrouped? (isDigit : Char → Bool) : List Char → Option (List Char)
  | [] => none
  | [c] => if isDigit c then some [c] else none
  | c :: '_' :: rest => if isDigit c then (ungrouped? isDigit rest).map (c :: ·) else none
  | c :: rest => if isDigit c then (ungrouped? isDigit rest).map (c :: ·) else none

/-- A character without its sign, and whether the sign is a minus. -/
def unsigned : List Char → Bool × List Char
  | '-' :: rest => (true, rest)
  | '+' :: rest => (false, rest)
  | rest => (false, rest)

/-- Decimal digits without a zero in front. -/
def wholeDigits? (cs : List Char) : Option (List Char) :=
  match ungrouped? Char.isDigit cs with
  | some ('0' :: _ :: _) => none
  | r => r

/-- A digit below a base of at most sixteen. -/
def isDigitBelow (base : Nat) (c : Char) : Bool :=
  match hexValue? c with
  | some n => n < base
  | none => false

/-- The number that digits write in a base. -/
def basedNumber? (base : Nat) (cs : List Char) : Option Int :=
  (ungrouped? (isDigitBelow base) cs).map fun digits =>
    (digits.foldl (fun n c => n * base + (hexValue? c).getD 0) 0 : Nat)

/-- An integer. -/
def integer? (cs : List Char) : Option Int :=
  match cs with
  | '0' :: 'x' :: rest => basedNumber? 16 rest
  | '0' :: 'o' :: rest => basedNumber? 8 rest
  | '0' :: 'b' :: rest => basedNumber? 2 rest
  | _ =>
    let (negative, digits) := unsigned cs
    (wholeDigits? digits).map fun digits =>
      let n : Int := digitsValue digits
      if negative then -n else n

/-- The value of an integer. One of more than 64 bits has no meaning, and one of more than 128 bits
is out of range. -/
def integerValue (n : Int) : Value :=
  if -0x8000000000000000 ≤ n && n ≤ maxWord then .integer n
  else if -0x80000000000000000000000000000000 ≤ n && n ≤ 0xFFFFFFFFFFFFFFFFFFFFFFFFFFFFFFFF then
    .illFormed
  else .outOfRange

/-- The exponent that stands behind its letter. -/
def exponent? (cs : List Char) : Option Int :=
  let (negative, digits) := unsigned cs
  (ungrouped? Char.isDigit digits).map fun digits =>
    let n : Int := digitsValue digits
    if negative then -n else n

/-- The digits of a fraction behind its point, and the exponent, of which one is there at least. -/
def fractionAndExponent? (fraction power : List Char) : Option (List Char × Int) :=
  match fraction, power with
  | [], [] => none
  | [], _ :: power => (exponent? power).map ([], ·)
  | _ :: digits, [] => (ungrouped? Char.isDigit digits).map (·, 0)
  | _ :: digits, _ :: power => do
    return (← ungrouped? Char.isDigit digits, ← exponent? power)

/-- A number that is no integer. -/
def float? (cs : List Char) : Option Value :=
  let body := (unsigned cs).2
  if body = ['i', 'n', 'f'] || body = ['n', 'a', 'n'] then some .other
  else do
    let (mantissa, power) := body.span fun c => c ≠ 'e' && c ≠ 'E'
    let (whole, fraction) := mantissa.span (· ≠ '.')
    let whole ← wholeDigits? whole
    let (fraction, exponent) ← fractionAndExponent? fraction power
    let n := digitsValue (whole ++ fraction)
    return if Binary64.exceeds n (exponent - fraction.length) then .outOfRange else .other

/-! ## Dates -/

/-- The number of a field of digits, and what follows. -/
def field? (count : Nat) (cs : List Char) : Option (Nat × List Char) :=
  let (digits, rest) := cs.splitAt count
  if digits.length = count && digits.all Char.isDigit then some (digitsValue digits, rest) else none

/-- The number of days of a month. -/
def daysOf (year month : Nat) : Nat :=
  if month = 2 then
    if year % 4 = 0 && (year % 100 ≠ 0 || year % 400 = 0) then 29 else 28
  else if month = 4 || month = 6 || month = 9 || month = 11 then 30
  else 31

/-- A date. -/
def date? (cs : List Char) : Option (List Char × List Char) := do
  let (year, rest) ← field? 4 cs
  let '-' :: rest := rest | none
  let (month, rest) ← field? 2 rest
  let '-' :: rest := rest | none
  let (day, rest) ← field? 2 rest
  if 1 ≤ month && month ≤ 12 && 1 ≤ day && day ≤ daysOf year month then
    return (cs.take 10, rest)
  else none

/-- A fraction of a second as it is written: at most nine digits, of which the last is no zero. -/
def secondFraction (digits : List Char) : List Char :=
  match ((digits.take 9).reverse.dropWhile (· = '0')).reverse with
  | [] => []
  | digits => '.' :: digits

/-- A time of day. -/
def time? (cs : List Char) : Option (List Char × List Char) := do
  let (hour, rest) ← field? 2 cs
  let ':' :: rest := rest | none
  let (minute, rest) ← field? 2 rest
  let ':' :: rest := rest | none
  let (second, rest) ← field? 2 rest
  if hour ≤ 23 && minute ≤ 59 && second ≤ 60 then
    match rest with
    | '.' :: rest =>
      let (digits, rest) := rest.span Char.isDigit
      if digits.isEmpty then none else return (cs.take 8 ++ secondFraction digits, rest)
    | _ => return (cs.take 8, rest)
  else none

/-- An offset from the universal time, or nothing. An offset of nothing has a plus sign. -/
def offset? : List Char → Option (List Char)
  | [] => some []
  | ['Z'] | ['z'] => some ['Z']
  | sign :: rest => do
    let (hour, ':' :: minutes) ← field? 2 rest | none
    let (minute, []) ← field? 2 minutes | none
    if (sign = '+' || sign = '-') && hour ≤ 23 && minute ≤ 59 then
      return (if hour = 0 && minute = 0 then '+' else sign) :: rest
    else none

/-- A date, a time of day, or both. Its text has a capital `T` between the two. -/
def dateTime? (cs : List Char) : Option String :=
  match date? cs with
  | some (date, []) => some (String.ofList date)
  | some (date, separator :: rest) => do
    let (time, rest) ← time? rest
    let offset ← offset? rest
    if separator = 'T' || separator = 't' || separator = ' ' then
      return String.ofList (date ++ 'T' :: time ++ offset)
    else none
  | none => do
    let (time, []) ← time? cs | none
    return String.ofList time

/-- The name of the one field of a date and time. -/
def dateTimeField : String := "$__toml_private_datetime"

/-- The value of a date and time. -/
def dateTimeValue (text : String) : Value :=
  .object [(dateTimeField, .text text)]

/-! ## Scalars by their form -/

/-- A character that ends a scalar without quotes. -/
def endsScalar (c : Char) : Bool :=
  c = ' ' || c = '\t' || c = '\r' || c = '\n' || c = ',' || c = ']' || c = '}' || c = '#'

/-- The characters of a scalar without quotes. A blank belongs to it between a date and a time. -/
def scalarText (cs : List Char) : List Char × List Char :=
  let (word, rest) := cs.span (!endsScalar ·)
  match rest with
  | ' ' :: d :: more =>
    if d.isDigit && (date? word).any (·.2.isEmpty) then
      let (time, rest) := (d :: more).span (!endsScalar ·)
      (word ++ ' ' :: time, rest)
    else (word, rest)
  | _ => (word, rest)

/-- The value of a scalar without quotes. -/
def scalar? (cs : List Char) : Option Value :=
  if cs = ['t', 'r', 'u', 'e'] then some (.boolean true)
  else if cs = ['f', 'a', 'l', 's', 'e'] then some (.boolean false)
  else
    match integer? cs with
    | some n => some (integerValue n)
    | none => (float? cs).or ((dateTime? cs).map dateTimeValue)

end MetricQuery.Toml
