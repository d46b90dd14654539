import MetricQuery.Sql.Grammar.Inner
import MetricQuery.Sql.Grammar.Name
import MetricQuery.Sql.Phrase

/-!
# Options — what is said about a column, a constraint or a sequence of numbers

These constructs are read for their canonical text and for the expressions in it, if they can hold
any. Each parser of an option answers with that text, or with nothing where no option is in front.
-/

namespace MetricQuery.Sql.Grammar

/-- Texts that are there, with spaces between them. -/
def spacedTexts (texts : List (Option String)) : String :=
  " ".intercalate (texts.filterMap id)

/-- An expression alone. -/
def exprPhrase (inner : Inner) : Parser Phrase :=
  return .ofTree (← inner.whole)

/-- An expression in parentheses. -/
def exprInParensPhrase (inner : Inner) : Parser Phrase :=
  return .parenthesized (← inParens (exprPhrase inner))

/-! ## Constraints -/

/-- When a constraint is checked. -/
structure ConstraintTiming where
  deferrable : Option Bool
  initially : Option String
  enforced : Option Bool

/-- A word, with `NOT` in front of it if the flag is not set. -/
def affirmed (word : String) (flag : Bool) : String :=
  if flag then word else "NOT " ++ word

def ConstraintTiming.render (t : ConstraintTiming) : String :=
  spacedTexts
    [t.deferrable.map (affirmed "DEFERRABLE"), t.initially.map ("INITIALLY " ++ ·),
      t.enforced.map (affirmed "ENFORCED")]

/-- A word that may have `NOT` in front of it: whether it has none. Nothing if there is no such
word. -/
def affirmed? (word : String) : Parser (Option Bool) := do
  if ← keywords? ["NOT", word] then return some false
  else if ← keyword? word then return some true
  else return none

/-- At most `rounds` remarks on when a constraint is checked, each at most once. -/
def moreTiming (t : ConstraintTiming) : (rounds : Nat) → Parser ConstraintTiming
  | 0 => return t
  | rounds + 1 => do
    let deferrable ← if t.deferrable.isNone then affirmed? "DEFERRABLE" else pure none
    if deferrable.isSome then return ← moreTiming { t with deferrable } rounds
    if t.initially.isNone then
      if ← keyword? "INITIALLY" then
        let initially ← oneOfKeywords ["DEFERRED", "IMMEDIATE"]
        return ← moreTiming { t with initially } rounds
    let enforced ← if t.enforced.isNone then affirmed? "ENFORCED" else pure none
    if enforced.isSome then moreTiming { t with enforced } rounds else return t

/-- When a constraint is checked, behind a space if anything is said about it. -/
def constraintTiming : Parser String := do
  let t ← moreTiming ⟨none, none, none⟩ 3
  return spacedIf (t.render != "") t.render

/-- What happens to a row when the row that it refers to goes away or changes. -/
def referentialAction : Parser String := do
  if ← keyword? "RESTRICT" then return "RESTRICT"
  else if ← keyword? "CASCADE" then return "CASCADE"
  else if ← keywords? ["SET", "NULL"] then return "SET NULL"
  else if ← keywords? ["NO", "ACTION"] then return "NO ACTION"
  else
    keywords ["SET", "DEFAULT"]
    return "SET DEFAULT"

/-- At most `rounds` actions of a reference: those on deletion and on change, each at most once. -/
def referentialActions : (rounds : Nat) → (onDelete onUpdate : Option String) →
    Parser (Option String × Option String)
  | 0, d, u => return (d, u)
  | rounds + 1, d, u => do
    if ← (pure d.isNone <&&> keywords? ["ON", "DELETE"]) then
      referentialActions rounds (some (← referentialAction)) u
    else if ← (pure u.isNone <&&> keywords? ["ON", "UPDATE"]) then
      referentialActions rounds d (some (← referentialAction))
    else return (d, u)

/-- The actions of a reference, each behind a space. -/
def referentialActionsText : Parser String := do
  let (onDelete, onUpdate) ← referentialActions 2 none none
  return spaced ("ON DELETE " ++ ·) onDelete ++ spaced ("ON UPDATE " ++ ·) onUpdate

/-! ## Sequences of numbers -/

/-- A number behind a keyword that another one may follow, or nothing. -/
def countOption? (k behind : String) : Parser (Option String) := do
  if ← keyword? k then
    let word := if ← keyword? behind then " " ++ behind else ""
    return some (k ++ word ++ " " ++ (← signedNumberText))
  else return none

/-- A bound of a sequence, or that it has none, or nothing. -/
def boundOption? (k : String) : Parser (Option String) := do
  if ← keyword? k then return some (k ++ " " ++ (← signedNumberText))
  else if ← keywords? ["NO", k] then return some ("NO " ++ k)
  else return none

/-- The options of a sequence of numbers, each with a space in front of it. -/
def sequenceOptions : Parser String := do
  let step ← countOption? "INCREMENT" "BY"
  let low ← boundOption? "MINVALUE"
  let high ← boundOption? "MAXVALUE"
  let start ← countOption? "START" "WITH"
  let cache ←
    if ← keyword? "CACHE" then pure (some ("CACHE " ++ (← signedNumberText))) else pure none
  let cycle ←
    if ← keywords? ["NO", "CYCLE"] then pure (some "NO CYCLE")
    else if ← keyword? "CYCLE" then pure (some "CYCLE")
    else pure none
  return String.join ([step, low, high, start, cache, cycle].map (spaced id))

/-! ## Named values -/

/-- Which columns an index of a table is clustered by. -/
def clusteredOption : Parser String := do
  if ← keywords? ["CLUSTERED", "COLUMNSTORE", "INDEX"] then
    if ← keyword? "ORDER" then
      return "CLUSTERED COLUMNSTORE INDEX ORDER " ++ parenthesized (renderNames (← namesInParens))
    else return "CLUSTERED COLUMNSTORE INDEX"
  else
    keywords ["CLUSTERED", "INDEX"]
    let columns ← inParens (commaList do
      let name ← ident
      let direction ← oneOfKeywords? ["ASC", "DESC"]
      return name.render ++ spaced id direction)
    return "CLUSTERED INDEX " ++ parenthesized (commaSeparated columns)

/-- How the rows of a table are parted by ranges of a column. -/
def partitionOption (inner : Inner) : Parser Phrase := do
  keyword "PARTITION"
  let phrase ← inParens do
    let column ← ident
    keyword "RANGE"
    let side ← oneOfKeywords? ["LEFT", "RIGHT"]
    keywords ["FOR", "VALUES"]
    let values ← inParens (commaList (exprPhrase inner))
    return .ofText (column.render ++ " RANGE" ++ spaced id side ++ " FOR VALUES ")
      ++ .parenthesized (.commaSeparated values)
  return "PARTITION " ++ .parenthesized phrase

/-- An option: a name with its value, or one of the options of another form. -/
def namedOption (inner : Inner) : Parser Phrase := do
  match (← peek?).map keywordOf with
  | some "HEAP" => return (← ident).render
  | some "PARTITION" => partitionOption inner
  | some "CLUSTERED" => clusteredOption
  | _ =>
    let name ← ident
    symbol .equal
    return .ofText (name.render ++ " = ") ++ (← exprPhrase inner)

/-- Options in parentheses. -/
def optionsInParens (inner : Inner) : Parser Phrase :=
  return .parenthesized (.commaSeparated (← inParens (commaList (namedOption inner))))

/-! ## Columns -/

/-- How a computed column is kept, behind a space. -/
def computedMode : Parser String := do
  if ← keyword? "STORED" then return " STORED"
  else if ← keyword? "VIRTUAL" then return " VIRTUAL"
  else return ""

/-- The numbers that a column takes its values from. -/
def identitySource (origin : String) : Parser String := do
  let options ← if ← symbol? .leftParen then
      let options ← sequenceOptions
      symbol .rightParen
      pure options
    else pure ""
  return "GENERATED " ++ origin ++ " AS IDENTITY"
    ++ if options.isEmpty then "" else " (" ++ options ++ " )"

/-- Where the values of a generated column come from, behind the keyword. -/
def generatedOption? (inner : Inner) : Parser (Option Phrase) := do
  if ← keywords? ["ALWAYS", "AS", "IDENTITY"] then return some (← identitySource "ALWAYS")
  else if ← keywords? ["BY", "DEFAULT", "AS", "IDENTITY"] then
    return some (← identitySource "BY DEFAULT")
  else if ← keywords? ["ALWAYS", "AS"] then
    if ← atSymbol .leftParen then
      let e ← exprInParensPhrase inner
      return some ("GENERATED ALWAYS AS " ++ e ++ (← computedMode))
    else return none
  else return none

/-- The row of another table that a column refers to, behind the keyword. -/
def referenceOption : Parser String := do
  let table ← path
  let columns ← namesInParens?
  let actions ← referentialActionsText
  return "REFERENCES " ++ renderPath table
    ++ spacedIf (!columns.isEmpty) (parenthesized (renderNames columns)) ++ actions
    ++ (← constraintTiming)

/-- Numbers that a column counts up, behind the keyword. -/
def identityOption : Parser String := do
  if ← symbol? .leftParen then
    let seed ← signedNumberText
    symbol .comma
    let step ← signedNumberText
    symbol .rightParen
    return "IDENTITY" ++ parenthesized (seed ++ ", " ++ step)
  else return "IDENTITY"

/-- The option of a column that a word opens, behind the word. -/
def columnOptionBehind (inner : Inner) (k : String) : Parser (Option Phrase) := do
  let withExpr : Parser (Option Phrase) := return some (.ofText (k ++ " ") ++ (← exprPhrase inner))
  match k with
  | "COMMENT" => return some ("COMMENT " ++ TextStyle.single.write (← quotedText))
  | "NULL" | "AUTO_INCREMENT" | "AUTOINCREMENT" | "ASC" | "DESC" => return some k
  | "DEFAULT" | "MATERIALIZED" | "ALIAS" => withExpr
  | "EPHEMERAL" =>
    if (← atSymbol .comma) || (← atSymbol .rightParen) then return some k else withExpr
  | "UNIQUE" => return some ("UNIQUE" ++ (← constraintTiming))
  | "REFERENCES" => return some (← referenceOption)
  | "CHECK" => return some ("CHECK " ++ (← exprInParensPhrase inner))
  | "GENERATED" => generatedOption? inner
  | "OPTIONS" => return some ("OPTIONS" ++ (← optionsInParens inner))
  | "AS" =>
    let e ← exprInParensPhrase inner
    return some ("AS " ++ e ++ (← computedMode))
  | _ => return some (← identityOption)

/-- An option of a column, or nothing. -/
def columnOption? (inner : Inner) : Parser (Option Phrase) := do
  if ← keywords? ["CHARACTER", "SET"] then
    return some ("CHARACTER SET " ++ renderPath (← path))
  else if ← keywords? ["NOT", "NULL"] then return some "NOT NULL"
  else if ← keywords? ["PRIMARY", "KEY"] then return some ("PRIMARY KEY" ++ (← constraintTiming))
  else if ← keywords? ["ON", "UPDATE"] then return some ("ON UPDATE " ++ (← exprPhrase inner))
  else if ← keywords? ["ON", "CONFLICT"] then
    let rule ← oneOfKeywords ["ROLLBACK", "ABORT", "FAIL", "IGNORE", "REPLACE"]
    return some ("ON CONFLICT " ++ rule)
  else
    match ← oneOfKeywords? ["COMMENT", "NULL", "DEFAULT", "MATERIALIZED", "ALIAS", "EPHEMERAL",
      "UNIQUE", "REFERENCES", "CHECK", "AUTO_INCREMENT", "AUTOINCREMENT", "ASC", "DESC",
      "GENERATED", "OPTIONS", "AS", "IDENTITY"] with
    | some k => columnOptionBehind inner k
    | none => return none

/-- At most `rounds` options of a column: its collation, and the others. -/
def columnOptions (inner : Inner) (collation : Option (List Ident)) : (rounds : Nat) →
    Parser (Option (List Ident) × List Phrase)
  | 0 => return (collation, [])
  | rounds + 1 => do
    let name ← if ← keyword? "CONSTRAINT" then pure (some (← ident)) else pure none
    match ← columnOption? inner with
    | some option =>
      let label := (name.map fun n => "CONSTRAINT " ++ n.render ++ " ").getD ""
      let (collation, others) ← columnOptions inner collation rounds
      return (collation, (label ++ option) :: others)
    | none =>
      if name.isSome then unexpected
      else if ← keyword? "COLLATE" then columnOptions inner (some (← path)) rounds
      else return (collation, [])

/-- The collation and the options of a column, each behind a space. -/
def columnOptionsPhrase (inner : Inner) : Parser Phrase := do
  let collation ← if ← keyword? "COLLATE" then pure (some (← path)) else pure none
  let (collation, options) ← columnOptions inner collation (← remaining)
  return .ofText (spaced (fun name => "COLLATE " ++ renderPath name) collation)
    ++ .join (options.map (" " ++ ·))

end MetricQuery.Sql.Grammar
