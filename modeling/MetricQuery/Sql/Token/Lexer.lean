import MetricQuery.Sql.Token
import MetricQuery.Sql.Token.Escape
import MetricQuery.Text.CharClass

/-!
# Reading tokens — from characters to the tokens of a query text

White space and comments only part tokens. A comment runs from `--` to the end of the line, or from
`/*` to the matching `*/`. Reading fails only where a quote or a comment is left open and where an
escape stands for no character.
-/

namespace MetricQuery.Sql

open MetricQuery.Text

/-! ## Texts between marks -/

/-- Reads up to the closing mark and undoes doubled marks: the characters, and what follows the
closing mark. -/
def scanQuoted? (mark : Char) : List Char → Option (List Char × List Char)
  | [] => none
  | c :: rest =>
    if c = mark then
      match rest with
      | d :: rest' =>
        if d = mark then (scanQuoted? mark rest').map fun (cs, after) => (mark :: cs, after)
        else some ([], rest)
      | [] => some ([], [])
    else (scanQuoted? mark rest).map fun (cs, after) => (c :: cs, after)

/-- The character that stands for a letter behind a backslash. -/
def controlChar (letter : Char) : Char :=
  match letter with
  | '0' => '\x00'
  | 'a' => '\x07'
  | 'b' => '\x08'
  | 'f' => '\x0c'
  | 'n' => '\n'
  | 'r' => '\r'
  | 't' => '\t'
  | 'Z' => '\x1a'
  | c => c

/-- Reads up to the closing single quote, undoing doubled quotes and backslashes. -/
def scanBackslashed? : List Char → Option (List Char × List Char)
  | [] => none
  | '\\' :: c :: rest =>
    (scanBackslashed? rest).map fun (cs, after) => (controlChar c :: cs, after)
  | ['\\'] => none
  | '\'' :: '\'' :: rest =>
    (scanBackslashed? rest).map fun (cs, after) => ('\'' :: cs, after)
  | '\'' :: rest => some ([], rest)
  | c :: rest => (scanBackslashed? rest).map fun (cs, after) => (c :: cs, after)

/-- Reads up to three marks in a row, of which `pending` have been passed. -/
def scanTripled? (mark : Char) : (pending : Nat) → List Char → Option (List Char × List Char)
  | _, [] => none
  | pending, c :: rest =>
    if c = mark then
      if pending = 2 then some ([], rest) else scanTripled? mark (pending + 1) rest
    else
      (scanTripled? mark 0 rest).map fun (cs, after) =>
        (List.replicate pending mark ++ c :: cs, after)

/-- Reads a raw text behind its opening mark, which two more may follow. Two marks alone enclose
nothing. -/
def scanRaw? (mark : Char) (cs : List Char) : Option (Token × List Char) :=
  let text (triple : Bool) : List Char × List Char → Token × List Char
    | (s, after) => (.text (.raw mark triple) (String.ofList s), after)
  match cs with
  | c :: d :: rest =>
    if c = mark && d = mark then (scanTripled? mark 0 rest).map (text true)
    else if c = mark then some (text false ([], d :: rest))
    else (scanQuoted? mark cs).map (text false)
  | cs => (scanQuoted? mark cs).map (text false)

/-- Reads a text behind two dollar signs, up to the next two. `open` tells that a dollar sign has
just been passed. -/
def scanDollars? : (isOpen : Bool) → List Char → Option (List Char × List Char)
  | _, [] => none
  | true, c :: rest =>
    if c = '$' then some ([], rest)
    else (scanDollars? false rest).map fun (cs, after) => ('$' :: c :: cs, after)
  | false, c :: rest =>
    if c = '$' then scanDollars? true rest
    else (scanDollars? false rest).map fun (cs, after) => (c :: cs, after)

/-- Takes characters as long as they are those of the tag, and the first that is not: what is
taken, whether it is the whole tag, and what follows. -/
def scanTag? : (tag : List Char) → List Char → Option (List Char × Bool × List Char)
  | [], cs => some ([], true, cs)
  | _ :: _, [] => none
  | t :: tag, c :: cs =>
    if c = t then (scanTag? tag cs).map fun (taken, whole, rest) => (c :: taken, whole, rest)
    else some ([c], false, cs)

/-- Reads a text behind a tag between dollar signs, up to the next such tag. -/
def scanTagged? (tag : List Char) : (fuel : Nat) → List Char → Option (List Char × List Char)
  | 0, _ => none
  | fuel + 1, cs =>
    match cs.span (· != '$') with
    | (before, _ :: rest) =>
      match scanTag? tag rest with
      | none => none
      | some (_, true, '$' :: after) => some (before, after)
      | some (taken, _, rest) =>
        (scanTagged? tag fuel rest).map fun (cs, after) => (before ++ '$' :: taken ++ cs, after)
    | (_, []) => none

/-! ## Words, numbers and symbols -/

/-- Whether a bare word may begin with the character. -/
def isWordStart (c : Char) : Bool :=
  isAlphabetic c || c == '_'

/-- Whether a bare word may go on with the character. -/
def isWordPart (c : Char) : Bool :=
  isAlphabetic c || c.isDigit || c == '@' || c == '$' || c == '#' || c == '_'

/-- A bare word whose first characters are given, and what follows it. -/
def scanWord (start cs : List Char) : Token × List Char :=
  let (name, after) := cs.span isWordPart
  (.word (.bare (String.ofList (start ++ name))), after)

/-- What begins with a sharp sign: an operator, the sign alone in front of a blank, or a word, which
may go on with any character. -/
def scanSharp : List Char → Token × List Char
  | '-' :: rest => (.symbol .sharpMinus, rest)
  | '>' :: '>' :: rest => (.symbol .longSharpArrow, rest)
  | '>' :: rest => (.symbol .sharpArrow, rest)
  | ' ' :: rest => (.symbol .sharp, ' ' :: rest)
  | c :: rest => scanWord ['#', c] rest
  | [] => (.symbol .sharp, [])

/-- What begins with an at sign: an operator, one or two signs alone in front of a blank, or a word,
which may go on with any character. -/
def scanAtSign : List Char → Token × List Char
  | '>' :: rest => (.symbol .atArrow, rest)
  | '?' :: rest => (.symbol .atQuestion, rest)
  | '@' :: ' ' :: rest => (.symbol .doubleAtSign, ' ' :: rest)
  | '@' :: c :: rest => scanWord ['@', '@', c] rest
  | ['@'] => (.symbol .doubleAtSign, [])
  | ' ' :: rest => (.symbol .atSign, ' ' :: rest)
  | c :: rest => scanWord ['@', c] rest
  | [] => (.symbol .atSign, [])

/-- The exponent at the front of the characters, if digits follow its sign. -/
def scanExponent : List Char → List Char × List Char
  | e :: rest =>
    if e = 'e' ∨ e = 'E' then
      let (sign, rest') := match rest with
        | '+' :: after => (['+'], after)
        | '-' :: after => (['-'], after)
        | _ => ([], rest)
      let (digits, after) := rest'.span Char.isDigit
      if digits.isEmpty then ([], e :: rest) else (e :: sign ++ digits, after)
    else ([], e :: rest)
  | [] => ([], [])

/-- Reads a number that begins with a digit or with a point: digits, at most one point among them,
an exponent, and a suffix `L`. A point alone is punctuation. -/
def scanNumber (cs : List Char) : Token × List Char :=
  let (whole, rest) := cs.span Char.isDigit
  match whole, rest with
  | ['0'], 'x' :: rest =>
    let (digits, after) := rest.span fun c => (hexValue? c).isSome
    (.text .hex (String.ofList digits), after)
  | _, _ =>
    let (point, rest) := match rest with
      | '.' :: after => (['.'], after)
      | _ => ([], rest)
    let (fraction, rest) := rest.span Char.isDigit
    let mantissa := whole ++ point ++ fraction
    if mantissa = ['.'] then (.symbol .period, rest)
    else
      let (exponent, rest) := scanExponent rest
      let text := String.ofList (mantissa ++ exponent)
      match rest with
      | 'L' :: after => (.number text true, after)
      | _ => (.number text false, rest)

/-- The first spelling in the list that begins the characters, with what follows it. -/
def scanSymbol? (cs : List Char) : List (String × Symbol) → Option (Token × List Char)
  | [] => none
  | (spelling, s) :: others =>
    if spelling.toList.isPrefixOf cs then some (.symbol s, cs.drop spelling.length)
    else scanSymbol? cs others

/-! ## Tokens -/

/-- What begins with a dollar sign: a text between tags, or a placeholder. -/
def scanDollar? (cs : List Char) : Option (Token × List Char) :=
  match cs with
  | '$' :: rest =>
    (scanDollars? false rest).map fun (s, after) => (.text (.dollar "") (String.ofList s), after)
  | cs =>
    let (tag, after) := cs.span fun c => isAlphanumeric c || c == '_'
    match after with
    | '$' :: rest =>
      (scanTagged? tag (rest.length + 1) rest).map fun (s, after) =>
        (.text (.dollar (String.ofList tag)) (String.ofList s), after)
    | _ => some (.placeholder (String.ofList ('$' :: tag)), after)

/-- The text that a letter opens together with the marks behind it, if it opens one. -/
def scanStyled? (c : Char) (rest : List Char) : Option (Option (Token × List Char)) :=
  let text (style : TextStyle) (r : Option (List Char × List Char)) : Option (Token × List Char) :=
    r.map fun (s, after) => (.text style (String.ofList s), after)
  match c.toLower, rest with
  | 'b', '\'' :: rest => some (text (.bytes '\'') (scanQuoted? '\'' rest))
  | 'b', '"' :: rest => some (text (.bytes '"') (scanQuoted? '"' rest))
  | 'r', '\'' :: rest => some (scanRaw? '\'' rest)
  | 'r', '"' :: rest => some (scanRaw? '"' rest)
  | 'n', '\'' :: rest => some (text .national (scanBackslashed? rest))
  | 'e', '\'' :: rest => some (text .escaped (scanEscaped? rest))
  | 'u', '&' :: '\'' :: rest => some (text .unicode (scanUnicode? rest))
  | 'x', '\'' :: rest => some (text .hex (scanBackslashed? rest))
  | _, _ => none

/-- Reads one token off the front of characters that begin with `c`. -/
def scanToken? (c : Char) (rest : List Char) : Option (Token × List Char) :=
  if c = '\'' then
    (scanQuoted? c rest).map fun (s, after) => (.text .single (String.ofList s), after)
  else if c = '"' ∨ c = '`' then
    (scanQuoted? c rest).map fun (s, after) => (.word (.quoted c (String.ofList s)), after)
  else if c.isDigit ∨ c = '.' then some (scanNumber (c :: rest))
  else if c = '#' then some (scanSharp rest)
  else if c = '@' then some (scanAtSign rest)
  else if isWordStart c then (scanStyled? c rest).getD (some (scanWord [] (c :: rest)))
  else if c = '?' then
    let (digits, after) := rest.span isNumeric
    some (.placeholder (String.ofList (c :: digits)), after)
  else if c = '$' then scanDollar? rest
  else some ((scanSymbol? (c :: rest) symbolSpellings).getD (.stray c, rest))

/-- What follows a comment that is open `depth + 1` times. A slash and a star open one more, a star
and a slash close one, and a mark of two characters may share the one in the middle with the next:
`last` is the character just passed. -/
def afterComment? (last : Char) : (depth : Nat) → List Char → Option (List Char)
  | _, [] => none
  | depth, c :: rest =>
    if last = '/' ∧ c = '*' then afterComment? c (depth + 1) rest
    else if last = '*' ∧ c = '/' then
      match depth with
      | 0 => some rest
      | depth + 1 => afterComment? c depth rest
    else afterComment? c depth rest

/-- Reads tokens until the characters are used up; each step takes at least one of the `fuel`
characters. `none` means that a quote or a comment is left open. -/
def scanTokens? : (fuel : Nat) → List Char → Option (List Token)
  | 0, _ => some []
  | _ + 1, [] => some []
  | fuel + 1, c :: rest =>
    match c, rest with
    | '-', '-' :: after => scanTokens? fuel (after.dropWhile (· != '\n'))
    | '/', '*' :: after => (afterComment? ' ' 0 after).bind (scanTokens? fuel)
    | _, _ =>
      if isBlank c then scanTokens? fuel rest
      else do
        let (token, after) ← scanToken? c rest
        let tokens ← scanTokens? fuel after
        return token :: tokens

/-- The tokens of a text, or `none` if a quote or a comment in it is left open. -/
def Token.scan? (text : String) : Option (List Token) :=
  let cs := text.toList
  scanTokens? (cs.length + 1) cs

example : Token.scan? "a -- b" = some [.word ⟨"a", none, "A"⟩] := by decide
example : Token.scan? "'it''s" = none := by decide
example : Token.scan? "N'it\\'s'" = some [.text .national "it's"] := by decide
example : Token.scan? "R''''x'y'''" = some [.text (.raw '\'' true) "'x'y"] := by decide
example : Token.scan? "$t$a$b$t$" = some [.text (.dollar "t") "a$b"] := by decide

end MetricQuery.Sql
