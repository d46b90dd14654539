import MetricQuery.Sql.Grammar.SpecialForm

/-!
# Expressions — operands, and the operators between them

An expression is an operand followed by operators that bind more tightly than the place where the
expression stands. A word that opens a special form, such as `CASE` or `CAST`, is read as a column
or as the name of a function where the form fails.
-/

namespace MetricQuery.Sql.Grammar

/-! ## Operands -/

/-- At most `rounds` further names behind points. -/
def columnNames : (rounds : Nat) → Parser (List Ident)
  | 0 => return []
  | rounds + 1 => do
    if ← symbol? .period then
      match ← next with
      | .word w => return identOf w :: (← columnNames rounds)
      | .text .single s => return ⟨s, some '\''⟩ :: (← columnNames rounds)
      | _ => unexpected
    else return []

/-- The text behind the name of a character set: the name begins with an underscore. -/
def introduced? (w : Word) : Parser (Option SyntaxTree) := do
  match ← get with
  | .text style s :: rest =>
    if w.text.toList.head? == some '_' && (style = .single || style = .hex) then
      set rest
      return some (.expr (.introduced w.text (.text style s)) [])
    else return none
  | _ => return none

/-- A column or a call, behind the first word of its name. -/
def nameForm (inner : Inner) (operand : Parser SyntaxTree) (w : Word) : Parser SyntaxTree := do
  match ← introduced? w with
  | some t => return t
  | none =>
    let names := identOf w :: (← columnNames (← remaining))
    if ← atSymbol .leftParen then call inner operand names false
    else return .expr (.column names.dropLast (names.getLastD (identOf w))) []

/-- What stands in parentheses, behind the opening one. -/
def parenForm (inner : Inner) : Parser SyntaxTree := do
  let t ←
    if ← atQuery then pure (.expr .subquery [← inner.query])
    else match ← inner.list with
      | [e] => pure (.expr .nested [e])
      | es => pure (.expr .tuple es)
  symbol .rightParen
  if ← symbol? .period then
    match ← next with
    | .word w => return .expr (.access (identOf w)) [t]
    | _ => unexpected
  else return t

/-- A text that a type stands in front of, or an interval. -/
def typedForm (inner : Inner) (operand : Parser SyntaxTree) : Parser SyntaxTree := do
  match ← dataType inner with
  | .interval => interval operand
  | .custom _ => unexpected
  | .known type => return .expr (.typedText (← literalText)) [type.toTree]

/-- A collation behind an operand, if one is there. -/
def collated (t : SyntaxTree) : Parser SyntaxTree := do
  if ← keyword? "COLLATE" then return .expr (.collate (← path)) [t] else return t

/-- An operand that begins with a word, behind the word. One that is read as a name because the form
that the word opens has failed takes no collation. -/
def wordForm (inner : Inner) (operand : Parser SyntaxTree) (w : Word) : Parser SyntaxTree := do
  match specialForm? inner operand w (← peek?) with
  | none => collated (← nameForm inner operand w)
  | some form =>
    if neverColumns.contains w.keyword then collated (← form)
    else
      let (t, special) ←
        either (return (← form, true)) (return (← nameForm inner operand w, false))
      if special then collated t else return t

/-- An operand that no type opens: its first token is taken, then what belongs to it. -/
def simpleOperand (inner : Inner) (operand : Parser SyntaxTree) : Parser SyntaxTree := do
  let start ← get
  match ← next with
  | .word w => wordForm inner operand w
  | .symbol .leftBracket => collated (← arrayForm inner false)
  | .symbol .leftBrace => collated (← bracesForm inner operand)
  | .symbol .minus => collated (.expr (.unary .minus) [← inner.expr Precedence.product])
  | .symbol .plus => collated (.expr (.unary .plus) [← inner.expr Precedence.product])
  | .symbol .leftParen => collated (← parenForm inner)
  | _ =>
    set start
    collated (.expr (.literal (← literal)) [])

/-- An operand. The value of an interval is an operand again; at most `rounds` intervals stand one
in another. -/
def operandWithin (inner : Inner) : (rounds : Nat) → Parser SyntaxTree
  | 0 => unexpected
  | rounds + 1 => do
    let operand := operandWithin inner rounds
    match ← attempt (typedForm inner operand) with
    | some t => return t
    | none => simpleOperand inner operand

/-- An operand. -/
def operand (inner : Inner) : Parser SyntaxTree := do
  operandWithin inner ((← remaining) + 1)

/-! ## Operators -/

/-- The right side of a comparison with all or some of several values, behind the quantifier. -/
def quantifiedSide (inner : Inner) (precedence : Nat) : Parser SyntaxTree := do
  let start ← get
  symbol .leftParen
  if ← atQuery then
    set start
    inner.expr precedence
  else
    let e ← inner.expr precedence
    symbol .rightParen
    return e

/-- An operator and its right side, behind the operator's token. -/
def binary (inner : Inner) (left : SyntaxTree) (op : BinaryOp) (precedence : Nat) :
    Parser SyntaxTree := do
  match ← oneOfKeywords? ["ANY", "ALL", "SOME"] with
  | none => return .expr (.binary op) [left, ← inner.expr precedence]
  | some k =>
    let right ← quantifiedSide inner precedence
    unless BinaryOp.isComparison op do unexpected
    let q := match k with
      | "ALL" => Quantifier.all
      | "ANY" => .any
      | _ => .some
    return .expr (.quantified op q) [left, right]

/-- What `IS` tests for, behind the keyword. -/
def isForm (inner : Inner) (left : SyntaxTree) : Parser SyntaxTree := do
  let negated ← keyword? "NOT"
  match ← oneOfKeywords ["NULL", "TRUE", "FALSE", "UNKNOWN", "DISTINCT"] with
  | "NULL" => return .expr (.isTruth .null negated) [left]
  | "TRUE" => return .expr (.isTruth .true negated) [left]
  | "FALSE" => return .expr (.isTruth .false negated) [left]
  | "UNKNOWN" => return .expr (.isTruth .unknown negated) [left]
  | _ =>
    keyword "FROM"
    return .expr (.isDistinctFrom negated) [left, ← inner.whole]

/-- What a value is sought in, behind `IN`. -/
def inForm (inner : Inner) (left : SyntaxTree) (negated : Bool) : Parser SyntaxTree := do
  if ← keyword? "UNNEST" then
    return .expr (.inUnnest negated) [left, ← inParens inner.whole]
  inParens do
    if ← atQuery then return .expr (.inQuery negated) [left, ← inner.query]
    else return .expr (.inList negated) (left :: (← inner.list))

/-- The bounds of a `BETWEEN`, behind the keyword. -/
def betweenForm (inner : Inner) (left : SyntaxTree) (negated : Bool) : Parser SyntaxTree := do
  let low ← inner.expr Precedence.comparison
  keyword "AND"
  return .expr (.between negated) [left, low, ← inner.expr Precedence.comparison]

/-- The pattern that a value is compared with, behind the keyword. -/
def patternForm (inner : Inner) (left : SyntaxTree) (negated : Bool) (kind : PatternKind)
    (anyOf escapes : Bool) : Parser SyntaxTree := do
  let any ← if anyOf then keyword? "ANY" else pure false
  let pattern ← inner.expr Precedence.pattern
  let escape ←
    if ← (pure escapes <&&> keyword? "ESCAPE") then pure (some (← literalText)) else pure none
  return .expr (.pattern kind negated any escape) [left, pattern]

/-- A test of the value on its left, possibly negated. -/
def testForm (inner : Inner) (left : SyntaxTree) : Parser SyntaxTree := do
  let negated ← keyword? "NOT"
  let regexp ← keyword? "REGEXP"
  let rlike ← keyword? "RLIKE"
  if regexp then patternForm inner left negated .regexp false false
  else if rlike then patternForm inner left negated .rlike false false
  else if ← keyword? "IN" then inForm inner left negated
  else if ← keyword? "BETWEEN" then betweenForm inner left negated
  else if ← keyword? "LIKE" then patternForm inner left negated .like true true
  else if ← keyword? "ILIKE" then patternForm inner left negated .ilike true true
  else
    keywords ["SIMILAR", "TO"]
    patternForm inner left negated .similarTo false true

/-- An index or a slice, behind the opening bracket. -/
def subscript (inner : Inner) (left : SyntaxTree) : Parser SyntaxTree := do
  let low ← if ← symbol? .colon then pure .absent else inner.whole
  if ← symbol? .rightBracket then
    if low.isAbsent then return .expr .slice [left, .absent, .absent, .absent]
    else return .expr .index [left, low]
  unless low.isAbsent do symbol .colon
  if ← symbol? .rightBracket then return .expr .slice [left, low, .absent, .absent]
  let high ← inner.whole
  if ← symbol? .rightBracket then return .expr .slice [left, low, high, .absent]
  symbol .colon
  let stride ← if ← atSymbol .rightBracket then pure .absent else inner.whole
  symbol .rightBracket
  return .expr .slice [left, low, high, stride]

/-- The operator in front with its right side, around the operand on its left. -/
def operatorStep (inner : Inner) (left : SyntaxTree) (precedence : Nat) : Parser SyntaxTree := do
  let start ← get
  let t ← next
  match operator? t with
  | some (op, _) => binary inner left op precedence
  | none => match t with
    | .symbol .doubleColon =>
      return .expr (.cast .doubleColon none) [left, ← typeTree inner]
    | .symbol .leftBracket => subscript inner left
    | _ => match keywordOf t with
      | "OPERATOR" => binary inner left (.custom (← operatorName)) precedence
      | "IS" => isForm inner left
      | "AT" =>
        keywords ["TIME", "ZONE"]
        return .expr .atTimeZone [left, ← inner.expr precedence]
      | _ =>
        set start
        testForm inner left

/-- At most `rounds` operators that bind more tightly than the precedence, each around all that is
on its left. -/
def operators (inner : Inner) (precedence : Nat) : (rounds : Nat) → SyntaxTree → Parser SyntaxTree
  | 0, left => return left
  | rounds + 1, left => do
    let ahead := precedenceAhead (← get)
    if ahead ≤ precedence then return left
    else operators inner precedence rounds (← operatorStep inner left ahead)

/-- An expression whose operators bind more tightly than the precedence, given the parsers for what
is nested in it. -/
def exprOver (inner : Inner) (precedence : Nat) : Parser SyntaxTree := do
  let left ← operand inner
  operators inner precedence (← remaining) left

end MetricQuery.Sql.Grammar
