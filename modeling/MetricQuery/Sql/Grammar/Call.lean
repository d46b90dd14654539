import MetricQuery.Sql.Grammar.DataType

/-!
# Calls — arguments, windows and intervals

What stands behind the name of a function: its parameters and arguments with the clauses among them,
and the window that it runs over. A distance in a window frame may be an interval, whose value is an
operand: the parsers below take the one for operands.
-/

namespace MetricQuery.Sql.Grammar

/-! ## Lists inside calls -/

/-- Whether a query, and no expression, is in front. -/
def atQuery : Parser Bool := do
  return (← atKeyword "SELECT") || (← atKeyword "WITH")

/-- The names in front of a star, behind the first one; nothing if no star ends them. -/
def starPath : (rounds : Nat) → Parser (Option (List Ident))
  | 0 => return none
  | rounds + 1 => do
    if ← symbol? .period then
      match ← next with
      | .word w => return (← starPath rounds).map (identOf w :: ·)
      | .text .single s => return (← starPath rounds).map (⟨s, some '\''⟩ :: ·)
      | .symbol .star => return some []
      | _ => unexpected
    else return none

/-- A star, a qualified star, or an expression. -/
def starOrExpr (inner : Inner) : Parser SyntaxTree := do
  let start ← get
  match start with
  | .symbol .star :: rest =>
    set rest
    return .clause (.wildcard [] .plain) []
  | first :: .symbol .period :: rest =>
    let name? := match first with
      | .word w => some (identOf w)
      | .text .single s => some ⟨s, some '\''⟩
      | _ => none
    match name? with
    | some name =>
      set (.symbol .period :: rest)
      match ← starPath start.length with
      | some names => return .clause (.wildcard (name :: names) .plain) []
      | none =>
        set start
        inner.whole
    | none => inner.whole
  | _ => inner.whole

/-- An expression behind a keyword, or nothing. -/
def exprBehind? (inner : Inner) (k : String) : Parser SyntaxTree := do
  if ← keyword? k then inner.whole else return .absent

/-- An expression with the direction in which it orders. -/
def orderItem (inner : Inner) : Parser SyntaxTree := do
  let e ← inner.whole
  let ascending ←
    if ← keyword? "ASC" then pure (some true)
    else if ← keyword? "DESC" then pure (some false)
    else pure none
  let nullsFirst ←
    if ← keywords? ["NULLS", "FIRST"] then pure (some true)
    else if ← keywords? ["NULLS", "LAST"] then pure (some false)
    else pure none
  let fill ←
    if ← keywords? ["WITH", "FILL"] then
      let start ← exprBehind? inner "FROM"
      let stop ← exprBehind? inner "TO"
      let step ← exprBehind? inner "STEP"
      pure [.clause .fill [start, stop, step]]
    else pure []
  return .clause (.orderItem ascending nullsFirst) (e :: fill)

/-- Expressions with directions, parted by commas. -/
def orderItems (inner : Inner) : Parser (List SyntaxTree) :=
  commaList (orderItem inner)

/-- `IGNORE NULLS` or `RESPECT NULLS`, or nothing. -/
def nullTreatment? : Parser (Option NullTreatment) := do
  match ← oneOfKeywords? ["RESPECT", "IGNORE"] with
  | none => return none
  | some k =>
    keyword "NULLS"
    return some (if k == "IGNORE" then .ignore else .respect)

/-! ## Arguments -/

/-- The sign between the name of an argument and its value. -/
def argumentSign : Parser ArgumentSign := do
  if ← keyword? "VALUE" then return .value
  else if ← symbol? .fatArrow then return .fatArrow
  else
    symbol .assign
    return .assign

/-- An argument, with its name if it is named. -/
def argument (inner : Inner) : Parser SyntaxTree := do
  let named : Parser SyntaxTree := do
    let name ← ident
    let sign ← argumentSign
    return .clause (.namedArgument name sign) [← starOrExpr inner]
  match ← attempt named with
  | some t => return t
  | none => starOrExpr inner

/-- A clause in the form of a tree behind its keywords, or nothing. -/
def clauseBehind (ks : List String) (p : Parser SyntaxTree) : Parser (List SyntaxTree) := do
  if ← keywords? ks then return [← p] else return []

/-- What becomes of null values in a JSON value, or nothing. -/
def jsonNulls? : Parser (List SyntaxTree) := do
  if ← keywords? ["ABSENT", "ON", "NULL"] then return [.clause (.jsonNullsArgument true) []]
  else if ← keywords? ["NULL", "ON", "NULL"] then return [.clause (.jsonNullsArgument false) []]
  else return []

/-- The end of a list up to which a value is the greatest or the least, behind `HAVING`. -/
def boundArgument (inner : Inner) : Parser SyntaxTree := do
  let k ← oneOfKeywords ["MIN", "MAX"]
  return .clause (.boundArgument (k == "MAX")) [← inner.whole]

/-- The text that stands for values without room, if it is given. -/
def overflowFiller (inner : Inner) : Parser (List SyntaxTree) := do
  match ← peek? with
  | some (.text .single _) | some (.text .escaped _) | some (.text .unicode _)
  | some (.text .national _) | some (.text .hex _) => return [← inner.whole]
  | some t => if ["WITH", "WITHOUT"].contains (keywordOf t) then return [] else unexpected
  | none => unexpected

/-- What happens to values of a list for which there is no room, behind the keywords. -/
def overflowArgument (inner : Inner) : Parser SyntaxTree := do
  if ← keyword? "ERROR" then return .clause (.overflowArgument none) []
  else
    keyword "TRUNCATE"
    let filler ← overflowFiller inner
    let k ← oneOfKeywords ["WITH", "WITHOUT"]
    keyword "COUNT"
    return .clause (.overflowArgument (some (k == "WITH"))) filler

/-- The clauses behind the arguments of a call. -/
def argumentClauses (inner : Inner) : Parser (List SyntaxTree) := do
  let nulls := (← nullTreatment?).map fun n => .clause (.nullsArgument n) []
  let order ← clauseBehind ["ORDER", "BY"] (return .clause .orderBy (← orderItems inner))
  let limit ← clauseBehind ["LIMIT"] (return .clause .limit [← inner.whole])
  let bound ← clauseBehind ["HAVING"] (boundArgument inner)
  let separator ← clauseBehind ["SEPARATOR"] (return .clause (.separatorArgument (← literal)) [])
  let overflow ← clauseBehind ["ON", "OVERFLOW"] (overflowArgument inner)
  return nulls.toList ++ order ++ limit ++ bound ++ separator ++ overflow ++ (← jsonNulls?)

/-- The arguments of a call, behind the opening parenthesis. -/
def arguments (inner : Inner) : Parser SyntaxTree := do
  let jsonNulls ← jsonNulls?
  if ← symbol? .rightParen then return .clause (.arguments none) jsonNulls
  let all ← keyword? "ALL"
  let distinct ← keyword? "DISTINCT"
  if all && distinct then unexpected
  let items ← commaList (argument inner)
  let clauses ← argumentClauses inner
  symbol .rightParen
  let unique := if all then some false else if distinct then some true else none
  return .clause (.arguments unique) (items ++ jsonNulls ++ clauses)

/-! ## Intervals and windows -/

/-- A number of digits in parentheses, or nothing. -/
def precision? : Parser (Option Nat) := do
  if ← atSymbol .leftParen then return some (← inParens natural) else return none

/-- The numbers of digits of seconds and of their fraction, in one pair of parentheses. -/
def secondsPrecision : Parser (Option Nat × Option Nat) := do
  if ← symbol? .leftParen then
    let whole ← natural
    let fraction ← if ← symbol? .comma then pure (some (← natural)) else pure none
    symbol .rightParen
    return (some whole, fraction)
  else return (none, none)

/-- The fields of time that an interval counts. -/
def intervalUnits : Parser IntervalUnits := do
  let field ←
    if intervalFields.contains (((← peek?).map keywordOf).getD "") then pure (some (← dateField))
    else pure none
  if field = some "SECOND" then
    let (precision, fraction) ← secondsPrecision
    return { field, precision, last := none, fraction }
  else
    let precision ← precision?
    let last ← if ← keyword? "TO" then pure (some (← dateField)) else pure none
    let fraction ← if last = some "SECOND" then precision? else pure none
    return { field, precision, last, fraction }

/-- An interval behind its keyword: a value, and the fields of time that it counts. -/
def interval (operand : Parser SyntaxTree) : Parser SyntaxTree := do
  let value ← operand
  return .expr (.interval (← intervalUnits)) [value]

/-- A bound of a window frame. -/
def frameBound (inner : Inner) (operand : Parser SyntaxTree) : Parser SyntaxTree := do
  if ← keywords? ["CURRENT", "ROW"] then return .clause .currentRow []
  let distance ←
    if ← keyword? "UNBOUNDED" then pure []
    else match ← peek? with
      | some (.text .single _) => pure [← interval operand]
      | _ => pure [← inner.whole]
  if ← keyword? "PRECEDING" then return .clause (.bound .preceding) distance
  keyword "FOLLOWING"
  return .clause (.bound .following) distance

/-- The frame of a window. -/
def frame (inner : Inner) (operand : Parser SyntaxTree) : Parser SyntaxTree := do
  let unit ← match ← oneOfKeywords ["ROWS", "RANGE", "GROUPS"] with
    | "ROWS" => pure FrameUnit.rows
    | "RANGE" => pure .range
    | _ => pure .groups
  if ← keyword? "BETWEEN" then
    let first ← frameBound inner operand
    keyword "AND"
    return .clause (.frame unit) [first, ← frameBound inner operand]
  else return .clause (.frame unit) [← frameBound inner operand, .absent]

/-- Expressions by which the rows of a window or a table are parted, or nothing. -/
def partitionBy? (inner : Inner) : Parser SyntaxTree := do
  if ← keywords? ["PARTITION", "BY"] then return .clause .partitionBy (← inner.list)
  else return .absent

/-- `ORDER BY` and its items, or nothing. -/
def orderBy? (inner : Inner) : Parser SyntaxTree := do
  if ← keywords? ["ORDER", "BY"] then return .clause .orderBy (← orderItems inner)
  else return .absent

/-- A window, behind the opening parenthesis. -/
def window (inner : Inner) (operand : Parser SyntaxTree) : Parser SyntaxTree := do
  let base ← match ← get with
    | .word w :: rest =>
      if isKnownKeyword w.keyword then pure none
      else
        set rest
        pure (some (identOf w))
    | _ => pure none
  let partition ← partitionBy? inner
  let order ← orderBy? inner
  if ← symbol? .rightParen then return .clause (.window base) [partition, order, .absent]
  let frame ← frame inner operand
  symbol .rightParen
  return .clause (.window base) [partition, order, frame]

/-! ## Calls -/

/-- A function call, behind the name. -/
def call (inner : Inner) (operand : Parser SyntaxTree) (name : List Ident) (braces : Bool) :
    Parser SyntaxTree := do
  symbol .leftParen
  let first ← arguments inner
  let (parameters, args) ←
    if ← symbol? .leftParen then pure (first, ← arguments inner)
    else pure (.absent, first)
  let within ←
    if ← keywords? ["WITHIN", "GROUP"] then
      inParens do
        keywords ["ORDER", "BY"]
        return .clause .withinGroup (← orderItems inner)
    else pure .absent
  let hasNulls := args.parts.any fun t => match t.form with
    | .clause (.nullsArgument _) => true
    | _ => false
  let nulls ← if hasNulls then pure none else nullTreatment?
  let overWindow ←
    if ← keyword? "OVER" then
      if ← symbol? .leftParen then window inner operand
      else pure (.clause (.namedWindow (← ident)) [])
    else pure .absent
  return .expr (.call name nulls braces) [parameters, args, overWindow, within]

/-- A call of a name with the given arguments alone. -/
def callOf (w : Word) (args : SyntaxTree) : SyntaxTree :=
  .expr (.call [identOf w] none false) [.absent, args, .absent, .absent]

end MetricQuery.Sql.Grammar
