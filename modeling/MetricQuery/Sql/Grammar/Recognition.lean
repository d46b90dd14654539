import MetricQuery.Sql.Grammar.Query

/-!
# Recognition — constructs that are read only to see where they end

Of a statement that is no query nothing is kept. The parsers below take the pieces that many such
statements share and answer with nothing.
-/

namespace MetricQuery.Sql.Grammar

/-! ## Pieces -/

/-- Takes the keywords if they are in front. -/
def optionally (ks : List String) : Parser Unit :=
  discard (keywords? ks)

/-- Takes one of the keywords if it is in front. -/
def optionallyOneOf (ks : List String) : Parser Unit :=
  discard (oneOfKeywords? ks)

/-- Takes the construct behind the keywords, if they are in front; tells whether they are. -/
def behind? {α : Type} (ks : List String) (p : Parser α) : Parser Bool := do
  if ← keywords? ks then
    discard p
    return true
  else return false

/-- Takes the construct behind the keywords, if they are in front. -/
def behind {α : Type} (ks : List String) (p : Parser α) : Parser Unit :=
  discard (behind? ks p)

/-- Takes one construct behind another in parentheses, if a parenthesis is in front. -/
def optionallyInParens {α : Type} (p : Parser α) : Parser Unit := do
  if ← atSymbol .leftParen then discard (inParens p)

/-- Takes the first construct whose keywords are in front; tells whether there is one. -/
def oneBehind? : List (List String × Parser Unit) → Parser Bool
  | [] => return false
  | (ks, p) :: others => do
    if ← behind? ks p then return true else oneBehind? others

/-- Takes the first construct whose keywords are in front. -/
def oneBehind (constructs : List (List String × Parser Unit)) : Parser Unit := do
  unless ← oneBehind? constructs do unexpected

/-- At most `rounds` constructs whose keywords are in front. -/
def allBehind (constructs : List (List String × Parser Unit)) : (rounds : Nat) → Parser Unit
  | 0 => return ()
  | rounds + 1 => do
    if ← oneBehind? constructs then allBehind constructs rounds

/-- Takes as many constructs as there are. -/
def manyBehind (constructs : List (List String × Parser Unit)) : Parser Unit := do
  allBehind constructs (← remaining)

/-- Keywords with nothing behind them. -/
def alone (ks : List String) : List String × Parser Unit :=
  (ks, return ())

/-- Takes the token in front, whatever it is; at the end of the text, none. -/
def anyToken : Parser Unit := do
  set (← get).tail

/-- Whether a word is in front. -/
def atWord : Parser Bool := do
  match ← peek? with
  | some (.word _) => return true
  | _ => return false

/-- Takes a word, whatever keyword it spells. -/
def anyWord : Parser Unit := do
  unless ← atWord do unexpected
  anyToken

/-- Takes the token in front, whatever it is; tells whether it is a name. -/
def looseName : Parser Bool := do
  let named := (← attempt ident).isSome
  unless named do anyToken
  return named

/-! ## Shared clauses -/

def ifExists : Parser Unit :=
  optionally ["IF", "EXISTS"]

def ifNotExists : Parser Unit :=
  optionally ["IF", "NOT", "EXISTS"]

/-- The cluster that a definition holds on, or nothing. -/
def onCluster : Parser Unit :=
  behind ["ON", "CLUSTER"] ident

/-- Expressions in parentheses. -/
def exprsInParens (inner : Inner) : Parser Unit :=
  discard (inParens inner.list)

/-- An expression in parentheses. -/
def exprInParens (inner : Inner) : Parser Unit :=
  discard (inParens inner.whole)

/-- Options in parentheses behind the keyword, or nothing. -/
def options (inner : Inner) (k : String) : Parser Unit :=
  behind [k] (optionsInParens inner)

/-- What happens to the things that depend on a dropped one, or nothing. -/
def dropBehavior : Parser Unit :=
  optionallyOneOf ["CASCADE", "RESTRICT"]

/-- What happens to the things that depend on a dropped one; the two words contradict each other. -/
def strictDropBehavior : Parser Bool := do
  let cascade ← keyword? "CASCADE"
  let restrict ← keyword? "RESTRICT"
  if cascade && restrict then unexpected else return cascade || restrict

/-- A role, by its name or as the current one. -/
def owner : Parser Unit := do
  unless (← oneOfKeywords? ["CURRENT_USER", "CURRENT_ROLE", "SESSION_USER"]).isSome do
    discard ident

/-- The rest of a name of which one part has been read, as far as it goes. The token that breaks it
off is taken with it. -/
def looseNames : (rounds : Nat) → Parser Unit
  | 0 => return ()
  | rounds + 1 => do
    match ← get with
    | .word _ :: rest | .text .single _ :: rest =>
      set rest
      if ← symbol? .period then looseNames rounds
    | tokens => set tokens.tail

/-- A qualified name, or what stands in its place. -/
def loosePath : Parser Unit := do
  looseNames ((← remaining) + 1)

/-- A table to change the rows of, and tables joined to it. -/
def joinedTables (inner : Inner) : Parser Unit :=
  discard (commaList (joinedTable inner))

/-- A condition on rows, or nothing. -/
def optionalWhere (inner : Inner) : Parser Unit :=
  behind ["WHERE"] inner.whole

/-- The function that a definition or a call refers to, with the types of its arguments. -/
def functionArgument (inner : Inner) : Parser Unit := do
  optionallyOneOf ["IN", "OUT", "INOUT"]
  match ← dataType inner with
  | .custom _ => discard (dataType inner)
  | _ => return ()
  if ← (keyword? "DEFAULT" <||> symbol? .equal) then discard inner.whole

/-- The name of a function with the types of its arguments. -/
def functionName (inner : Inner) : Parser Unit := do
  discard path
  if ← symbol? .leftParen then
    unless ← symbol? .rightParen do
      discard (commaList (functionArgument inner))
      symbol .rightParen

end MetricQuery.Sql.Grammar
