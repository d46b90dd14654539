import MetricQuery.Data.Binary64
import MetricQuery.Data.Value
import MetricQuery.Text.Hexadecimal

/-!
# JSON — values as text

Reading takes exactly one value, with blanks around it. Fields of an object are kept in order, also
when a name occurs twice. A text with half a character and a number that is too large have the form
of values, but no meaning. Writing puts each item and each field on a line of its own.
-/

namespace MetricQuery.Json

open MetricQuery.Text

/-! ## Reading -/

/-- A blank between the parts of a value. -/
def isSpace (c : Char) : Bool :=
  c = ' ' || c = '\n' || c = '\t' || c = '\r'

def skipSpace (cs : List Char) : List Char :=
  cs.dropWhile isSpace

/-- The character that an escape letter stands for. -/
def escaped? : Char → Option Char
  | '"' => some '"'
  | '\\' => some '\\'
  | '/' => some '/'
  | 'b' => some '\x08'
  | 'f' => some '\x0c'
  | 'n' => some '\n'
  | 'r' => some '\r'
  | 't' => some '\t'
  | _ => none

/-- The second unit of a character beyond the 16-bit ones. -/
def lowUnit? : List Char → Option (Nat × List Char)
  | '\\' :: 'u' :: rest => (takeHex? 4 rest).filter fun (low, _) => 0xDC00 ≤ low ∧ low ≤ 0xDFFF
  | _ => none

/-- The character written behind `\u`: one unit, or two units that make up a character beyond the
16-bit ones. Half of such a pair is no character. -/
def unicodeEscape? (cs : List Char) : Option (Option Char × List Char) := do
  let (high, rest) ← takeHex? 4 cs
  if 0xD800 ≤ high ∧ high ≤ 0xDBFF then
    match lowUnit? rest with
    | some (low, rest) =>
      return (charOfCode? (0x10000 + (high - 0xD800) * 0x400 + (low - 0xDC00)), rest)
    | none => return (none, rest)
  else return (charOfCode? high, rest)

/-- What stands in a string up to its closing quote: characters, and halves of some. -/
def stringRest? : Nat → List Char → Option (List (Option Char) × List Char)
  | 0, _ => none
  | rounds + 1, cs =>
    match cs with
    | [] => none
    | '"' :: rest => some ([], rest)
    | '\\' :: 'u' :: rest => do
      let (c, rest) ← unicodeEscape? rest
      let (more, rest) ← stringRest? rounds rest
      return (c :: more, rest)
    | '\\' :: letter :: rest => do
      let c ← escaped? letter
      let (more, rest) ← stringRest? rounds rest
      return (some c :: more, rest)
    | c :: rest =>
      if c.toNat < 0x20 then none
      else do
        let (more, rest) ← stringRest? rounds rest
        return (some c :: more, rest)

/-- A string, its opening quote being read; it is no text if it holds half a character. -/
def string? (cs : List Char) : Option (Option String × List Char) :=
  (stringRest? (cs.length + 1) cs).map fun (s, rest) => ((s.mapM id).map String.ofList, rest)

/-- Digits, at least one. -/
def digits? (cs : List Char) : Option (List Char × List Char) :=
  match cs.span Char.isDigit with
  | ([], _) => none
  | r => some r

/-- Digits that write a number in the usual way, without a zero in front. -/
def wholePart? (cs : List Char) : Option (List Char × List Char) := do
  let (digits, rest) ← digits? cs
  match digits with
  | '0' :: _ :: _ => none
  | _ => return (digits, rest)

/-- The digits of a fraction, if there is one. -/
def fraction? : List Char → Option (List Char × List Char)
  | '.' :: rest => digits? rest
  | cs => some ([], cs)

/-- An exponent, if there is one. -/
def exponent? : List Char → Option (Option Int × List Char)
  | c :: rest =>
    if c = 'e' || c = 'E' then
      let (negative, unsigned) := match rest with
        | '-' :: r => (true, r)
        | '+' :: r => (false, r)
        | r => (false, r)
      (digits? unsigned).map fun (digits, rest) =>
        let n : Int := digitsValue digits
        (some (if negative then -n else n), rest)
    else some (none, c :: rest)
  | [] => some (none, [])

/-- A number. One with a fraction or an exponent is no integer, and neither is minus zero. -/
def number? (cs : List Char) : Option (Value × List Char) := do
  let (negative, unsigned) := match cs with
    | '-' :: rest => (true, rest)
    | rest => (false, rest)
  let (whole, rest) ← wholePart? unsigned
  let (fraction, rest) ← fraction? rest
  let (exponent, rest) ← exponent? rest
  let n := digitsValue whole
  if (Binary64.Significand.ofDigits whole fraction (exponent.getD 0)).exceeds then
    return (.illFormed, rest)
  else if !fraction.isEmpty || exponent.isSome || (negative && n = 0) then return (.other, rest)
  else return (.integer (if negative then -n else n), rest)

/-- An object of fields, each of whose names has to be a text. -/
def objectOf (fields : List (Option String × Value)) : Value :=
  match fields.mapM fun (f : Option String × Value) => f.1.map (·, f.2) with
  | some fields => .object fields
  | none => .illFormed

mutual

/-- A value behind blanks. -/
def value? : Nat → List Char → Option (Value × List Char)
  | 0, _ => none
  | rounds + 1, cs =>
    match skipSpace cs with
    | 'n' :: 'u' :: 'l' :: 'l' :: rest => some (.null, rest)
    | 't' :: 'r' :: 'u' :: 'e' :: rest => some (.boolean true, rest)
    | 'f' :: 'a' :: 'l' :: 's' :: 'e' :: rest => some (.boolean false, rest)
    | '"' :: rest => (string? rest).map fun (s, rest) => (s.elim .illFormed .text, rest)
    | '[' :: rest =>
      match skipSpace rest with
      | ']' :: rest => some (.list [], rest)
      | rest => (items? rounds rest).map fun (items, rest) => (.list items, rest)
    | '{' :: rest =>
      match skipSpace rest with
      | '}' :: rest => some (.object [], rest)
      | rest => (fields? rounds rest).map fun (fields, rest) => (objectOf fields, rest)
    | rest => number? rest

/-- The items of a list up to its end. -/
def items? : Nat → List Char → Option (List Value × List Char)
  | 0, _ => none
  | rounds + 1, cs => do
    let (v, rest) ← value? rounds cs
    match skipSpace rest with
    | ']' :: rest => return ([v], rest)
    | ',' :: rest =>
      let (more, rest) ← items? rounds rest
      return (v :: more, rest)
    | _ => none

/-- The fields of an object up to its end. -/
def fields? : Nat → List Char → Option (List (Option String × Value) × List Char)
  | 0, _ => none
  | rounds + 1, cs =>
    match skipSpace cs with
    | '"' :: rest => do
      let (name, rest) ← string? rest
      match skipSpace rest with
      | ':' :: rest =>
        let (v, rest) ← value? rounds rest
        match skipSpace rest with
        | '}' :: rest => return ([(name, v)], rest)
        | ',' :: rest =>
          let (more, rest) ← fields? rounds rest
          return ((name, v) :: more, rest)
        | _ => none
      | _ => none
    | _ => none

end

/-- The value that a text writes. -/
def parse? (text : String) : Option Value :=
  let cs := text.toList
  match value? (2 * cs.length + 2) cs with
  | some (v, rest) => if (skipSpace rest).isEmpty then some v else none
  | none => none

/-! ## Writing -/

/-- A character as it stands in a string. -/
def escape (c : Char) : String :=
  match c with
  | '"' => "\\\""
  | '\\' => "\\\\"
  | '\x08' => "\\b"
  | '\x0c' => "\\f"
  | '\n' => "\\n"
  | '\r' => "\\r"
  | '\t' => "\\t"
  | c => if c.toNat < 0x20 then "\\u" ++ hexText4 c.toNat else c.toString

/-- A string between its quotes. -/
def writeString (s : String) : String :=
  "\"" ++ String.join (s.toList.map escape) ++ "\""

/-- A new line, indented by two blanks for each level. -/
def newLine (level : Nat) : String :=
  String.ofList ('\n' :: List.replicate (2 * level) ' ')

/-- Parts between brackets, each on a line of its own. -/
def bracketed (opening closing : String) (level : Nat) (parts : List String) : String :=
  if parts.isEmpty then opening ++ closing
  else
    opening ++ newLine (level + 1) ++ ("," ++ newLine (level + 1)).intercalate parts
      ++ newLine level ++ closing

mutual

/-- The text of a value that stands at a level of indentation. -/
def write (level : Nat) : Value → String
  | .null | .other | .illFormed | .outOfRange => "null"
  | .boolean b => if b then "true" else "false"
  | .integer n => toString n
  | .text s => writeString s
  | .list items => bracketed "[" "]" level (writeItems (level + 1) items)
  | .object fields => bracketed "\x7b" "\x7d" level (writeFields (level + 1) fields)

/-- The texts of the items of a list. -/
def writeItems (level : Nat) : List Value → List String
  | [] => []
  | v :: rest => write level v :: writeItems level rest

/-- The texts of the fields of an object. -/
def writeFields (level : Nat) : List (String × Value) → List String
  | [] => []
  | (name, v) :: rest => (writeString name ++ ": " ++ write level v) :: writeFields level rest

end

/-- The text of a value. -/
def render (v : Value) : String :=
  write 0 v

end MetricQuery.Json
