import MetricQuery.Sql.Token
import MetricQuery.Text.Natural

/-!
# Parsers — reading a construct off the front of a token list

A parser takes what it needs from the front of the tokens or fails. `attempt` reads a construct or
leaves the tokens as they were. A construct that nests too deeply is not tried any other way: that
failure passes through `attempt`.
-/

namespace MetricQuery.Sql.Grammar

/-- Why a text is refused. -/
inductive Failure where
  /-- A token that the construct cannot go on with. -/
  | unexpected
  /-- The text nests deeper than it may. -/
  | tooDeep
  deriving DecidableEq

/-- A parser of constructs of type `α`. -/
abbrev Parser (α : Type) := StateT (List Token) (Except Failure) α

/-- The parser that reads nothing and fails. -/
def unexpected {α : Type} : Parser α :=
  throw .unexpected

/-- The token in front, if any token is left. -/
def peek? : Parser (Option Token) :=
  return (← get).head?

/-- Takes the token in front. -/
def next : Parser Token := do
  match ← get with
  | t :: rest => set rest; return t
  | [] => unexpected

/-- The number of tokens left, which bounds the rounds of any loop that reads one in each. -/
def remaining : Parser Nat :=
  return (← get).length

/-- Reads a construct, or nothing if it is not there. -/
def attempt {α : Type} (p : Parser α) : Parser (Option α) := fun tokens =>
  match p tokens with
  | .ok (a, rest) => .ok (some a, rest)
  | .error .unexpected => .ok (none, tokens)
  | .error .tooDeep => .error .tooDeep

/-- Reads a construct one way or, however that fails, another. If both fail, the first failure
counts. -/
def either {α : Type} (p q : Parser α) : Parser α := fun tokens =>
  match p tokens with
  | .ok r => .ok r
  | .error e => match q tokens with
    | .ok r => .ok r
    | .error _ => .error e

/-- The keyword that a token spells, or the empty text. -/
def keywordOf : Token → String
  | .word w => w.keyword
  | _ => ""

/-- Whether the keyword is in front. -/
def atKeyword (k : String) : Parser Bool :=
  return (← peek?).any (keywordOf · == k)

/-- Takes the keyword if it is in front. -/
def keyword? (k : String) : Parser Bool := do
  match ← get with
  | t :: rest => if keywordOf t == k then set rest; return true else return false
  | [] => return false

/-- Takes the keywords if they are in front, one behind the other. -/
def keywords? (ks : List String) : Parser Bool := do
  let tokens ← get
  if (tokens.take ks.length).map keywordOf == ks then
    set (tokens.drop ks.length)
    return true
  else return false

/-- Takes one of the keywords if it is in front. -/
def oneOfKeywords? (ks : List String) : Parser (Option String) := do
  match ← get with
  | t :: rest =>
    if ks.contains (keywordOf t) then
      set rest
      return some (keywordOf t)
    else return none
  | [] => return none

/-- Takes the keyword. -/
def keyword (k : String) : Parser Unit := do
  unless ← keyword? k do unexpected

/-- Takes the keywords, one behind the other. -/
def keywords (ks : List String) : Parser Unit := do
  unless ← keywords? ks do unexpected

/-- Takes one of the keywords. -/
def oneOfKeywords (ks : List String) : Parser String := do
  match ← oneOfKeywords? ks with
  | some k => return k
  | none => unexpected

/-- Whether the symbol is in front. -/
def atSymbol (s : Symbol) : Parser Bool :=
  return (← peek?) == some (.symbol s)

/-- Takes the symbol if it is in front. -/
def symbol? (s : Symbol) : Parser Bool := do
  match ← get with
  | t :: rest => if t == .symbol s then set rest; return true else return false
  | [] => return false

/-- Takes the symbol. -/
def symbol (s : Symbol) : Parser Unit := do
  unless ← symbol? s do unexpected

/-- One construct behind another in parentheses. -/
def inParens {α : Type} (p : Parser α) : Parser α := do
  symbol .leftParen
  let a ← p
  symbol .rightParen
  return a

/-- At most `rounds` further constructs, each behind a comma. -/
def moreBehindCommas {α : Type} (p : Parser α) : (rounds : Nat) → Parser (List α)
  | 0 => return []
  | rounds + 1 => do
    if ← symbol? .comma then
      let a ← p
      return a :: (← moreBehindCommas p rounds)
    else return []

/-- One or more constructs parted by commas. -/
def commaList {α : Type} (p : Parser α) : Parser (List α) := do
  let a ← p
  return a :: (← moreBehindCommas p (← remaining))

/-- A natural number that fits a 64-bit word. -/
def natural : Parser Nat := do
  match ← next with
  | .number text _ => match Text.readWord? text with
    | some n => return n
    | none => unexpected
  | _ => unexpected

end MetricQuery.Sql.Grammar
