import MetricQuery.Sql.Grammar.Name

/-!
# Row patterns — which rows follow each other in a match

A pattern is read for its canonical text only. It is one of several alternatives, each of them
patterns one behind the other, each of which may be repeated.
-/

namespace MetricQuery.Sql.Grammar

/-- The number of repetitions that a token gives; it has to fit 32 bits. -/
def repetitions : Token → Parser String
  | .number digits _ =>
    match Text.readWord? digits with
    | some n => if n < 4294967296 then return toString n else unexpected
    | none => unexpected
  | _ => unexpected

/-- How often a pattern is repeated, behind the opening brace. -/
def repetitionRange : Parser String := do
  let first ← next
  if first = .symbol .comma then
    let most ← repetitions (← next)
    symbol .rightBrace
    return "\x7b," ++ most ++ "\x7d"
  let least ← repetitions first
  if ← symbol? .comma then
    match ← next with
    | .symbol .rightBrace => return "\x7b" ++ least ++ ",\x7d"
    | t =>
      let most ← repetitions t
      symbol .rightBrace
      return "\x7b" ++ least ++ "," ++ most ++ "\x7d"
  else
    symbol .rightBrace
    return "\x7b" ++ least ++ "\x7d"

/-- At most `rounds` marks of repetition. -/
def repetitionMarks : (rounds : Nat) → Parser String
  | 0 => return ""
  | rounds + 1 => do
    match ← get with
    | .symbol .star :: rest =>
      set rest
      return "*" ++ (← repetitionMarks rounds)
    | .symbol .plus :: rest =>
      set rest
      return "+" ++ (← repetitionMarks rounds)
    | .placeholder "?" :: rest =>
      set rest
      return "?" ++ (← repetitionMarks rounds)
    | .symbol .leftBrace :: rest =>
      set rest
      let range ← repetitionRange
      return range ++ (← repetitionMarks rounds)
    | _ => return ""

/-- A symbol between `{-` and `-}`, behind the brace: it is matched and left out. -/
def excludedSymbol : Parser String := do
  symbol .minus
  let name ← ident
  symbol .minus
  symbol .rightBrace
  return "\x7b- " ++ name.render ++ " -\x7d"

/-- A pattern without repetition, given the parser for a pattern in parentheses. -/
def basePattern (pattern : Parser String) : Parser String := do
  match ← get with
  | .symbol .caret :: rest =>
    set rest
    return "^"
  | .placeholder "$" :: rest =>
    set rest
    return "$"
  | .symbol .leftBrace :: rest =>
    set rest
    excludedSymbol
  | .word ⟨"PERMUTE", none, _⟩ :: rest =>
    set rest
    return "PERMUTE" ++ parenthesized (renderNames (← namesInParens))
  | .symbol .leftParen :: _ => return "( " ++ (← inParens pattern) ++ " )"
  | _ => return (← ident).render

/-- One or more patterns one behind the other, up to a parenthesis or a bar; at most `rounds` of
them. -/
def patternSequence (pattern : Parser String) : (rounds : Nat) → Parser (List String)
  | 0 => unexpected
  | rounds + 1 => do
    let base ← basePattern pattern
    let text := base ++ (← repetitionMarks (← remaining))
    if (← atSymbol .rightParen) || (← atSymbol .pipe) then return [text]
    else return text :: (← patternSequence pattern rounds)

/-- A row pattern; at most `rounds` parentheses and bars stand around a part of it. -/
def rowPatternWithin : (rounds : Nat) → Parser String
  | 0 => unexpected
  | rounds + 1 => do
    let first ← patternSequence (rowPatternWithin rounds) (← remaining)
    let text := " ".intercalate first
    if ← symbol? .pipe then return text ++ " | " ++ (← rowPatternWithin rounds) else return text

/-- A row pattern in parentheses. -/
def rowPattern : Parser String :=
  inParens do rowPatternWithin (← remaining)

end MetricQuery.Sql.Grammar
