import MetricQuery.Data.Toml.Document

/-!
# TOML — reading a document

A document is a sequence of lines: headers, keys with values, comments and blank lines. A list may
run over several lines; everything else ends on the line on which it begins, strings over several
lines apart. Lists and tables lie at most `maxLevels` deep in one another, and a key has no more
parts than that.
-/

namespace MetricQuery.Toml

/-- The levels that lists and tables on one line may lie deep, and the parts that a key may have. -/
def maxLevels : Nat := 80

/-! ## Blanks, comments and keys -/

/-- What follows a comment, if there is one. -/
def skipComment? : List Char → Option (List Char)
  | '#' :: rest =>
    let rest := rest.dropWhile isPlain
    if rest.isEmpty || (newLine? rest).isSome then some rest else none
  | cs => some cs

/-- What follows the end of a line, with blanks and a comment in front of it. -/
def lineEnd? (cs : List Char) : Option (List Char) := do
  let rest ← skipComment? (skipBlanks cs)
  if rest.isEmpty then return [] else newLine? rest

/-- What follows blanks, line ends and comments. -/
def skipLines? : Nat → List Char → Option (List Char)
  | 0, _ => none
  | rounds + 1, cs => do
    let rest ← skipComment? (skipBlanks cs)
    match newLine? rest with
    | some rest => skipLines? rounds rest
    | none => return rest

/-- A character of a key without quotes. -/
def isKeyChar (c : Char) : Bool :=
  c.isAlphanum || c = '_' || c = '-'

/-- One part of a key. -/
def keyPart? : List Char → Option (String × List Char)
  | '"' :: rest => basic? rest
  | '\'' :: rest => literal? rest
  | cs =>
    match cs.span isKeyChar with
    | ([], _) => none
    | (word, rest) => some (String.ofList word, rest)

/-- The parts of a key, with dots between them. What follows is behind blanks. -/
def keyParts? : Nat → List Char → Option (List String × List Char)
  | 0, _ => none
  | rounds + 1, cs => do
    let (part, rest) ← keyPart? (skipBlanks cs)
    match skipBlanks rest with
    | '.' :: rest =>
      let (more, rest) ← keyParts? rounds rest
      return (part :: more, rest)
    | rest => return ([part], rest)

/-- A key. -/
def key? (cs : List Char) : Option (List String × List Char) :=
  (keyParts? (cs.length + 1) cs).filter fun (parts, _) => parts.length ≤ maxLevels

/-! ## Values -/

mutual

/-- A value in which lists and tables lie at most `levels` deep. -/
def value? (levels : Nat) : (rounds : Nat) → List Char → Option (Value × List Char)
  | 0, _ => none
  | rounds + 1, cs =>
    match cs, levels with
    | '"' :: _, _ | '\'' :: _, _ => (string? cs).map fun (s, rest) => (.text s, rest)
    | '[' :: _, 0 | '{' :: _, 0 => none
    | '[' :: rest, levels + 1 =>
      (items? levels rounds rest).map fun (items, rest) => (.list items, rest)
    | '{' :: rest, levels + 1 =>
      match skipBlanks rest with
      | '}' :: rest => some (.object [], rest)
      | rest =>
        (fields? levels rounds [] rest).map fun (t, rest) => (.object (tableFields t), rest)
    | _, _ =>
      let (word, rest) := scalarText cs
      (scalar? word).map (·, rest)

/-- The items of a list up to its end; a comma may stand behind the last one. -/
def items? (levels : Nat) : (rounds : Nat) → List Char → Option (List Value × List Char)
  | 0, _ => none
  | rounds + 1, cs => do
    match ← skipLines? (cs.length + 1) cs with
    | ']' :: rest => return ([], rest)
    | cs =>
      let (v, rest) ← value? levels rounds cs
      match ← skipLines? (rest.length + 1) rest with
      | ']' :: rest => return ([v], rest)
      | ',' :: rest =>
        let (more, rest) ← items? levels rounds rest
        return (v :: more, rest)
      | _ => none

/-- The fields of a table on one line up to its end. -/
def fields? (levels : Nat) : (rounds : Nat) → Table → List Char → Option (Table × List Char)
  | 0, _, _ => none
  | rounds + 1, t, cs => do
    let (key, rest) ← key? cs
    let '=' :: rest := rest | none
    let (v, rest) ← value? levels rounds (skipBlanks rest)
    let t ← Table.assign? v key t
    match skipBlanks rest with
    | '}' :: rest => return (t, rest)
    | ',' :: rest => fields? levels rounds t rest
    | _ => none

end

/-! ## Lines -/

/-- A header, its opening brackets being read. -/
def header? (d : Document) (closing : List Char)
    (open? : String → Table → Option Table) (cs : List Char) :
    Option (Document × List Char) := do
  let (path, rest) ← key? cs
  if closing.isPrefixOf rest then
    return (← d.openAt? path open?, ← lineEnd? (rest.drop closing.length))
  else none

/-- A key with its value. -/
def assignment? (d : Document) (cs : List Char) : Option (Document × List Char) := do
  let (key, rest) ← key? cs
  let '=' :: rest := rest | none
  let (v, rest) ← value? maxLevels (2 * rest.length + 2) (skipBlanks rest)
  return (← d.assign? key v, ← lineEnd? rest)

/-- The document with the lines that follow. -/
def lines? : Nat → Document → List Char → Option Document
  | 0, _, _ => none
  | rounds + 1, d, cs => do
    match ← skipLines? (cs.length + 1) cs with
    | [] => return d
    | '[' :: '[' :: rest =>
      let (d, rest) ← header? d [']', ']'] Table.openItem? rest
      lines? rounds d rest
    | '[' :: rest =>
      let (d, rest) ← header? d [']'] Table.openTable? rest
      lines? rounds d rest
    | cs =>
      let (d, rest) ← assignment? d cs
      lines? rounds d rest

/-- The value that a document writes. A byte order mark may stand in front of it. -/
def parse? (text : String) : Option Value :=
  let cs := match text.toList with
    | '\ufeff' :: rest => rest
    | cs => cs
  (lines? (cs.length + 1) .empty cs).map Document.toValue

end MetricQuery.Toml
