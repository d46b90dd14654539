import MetricQuery.Sql.Form.Expr
import MetricQuery.Sql.Grammar.Parser

/-!
# Operators — what stands between two operands, and how tightly it binds

An operator belongs to an expression only if it binds more tightly than the place where the
expression stands. A token that opens no operator binds with strength zero.
-/

namespace MetricQuery.Sql.Grammar

namespace Precedence

def or : Nat := 5
def and : Nat := 10
def not : Nat := 15
def arrow : Nat := 16
def is : Nat := 17
def pattern : Nat := 19
def comparison : Nat := 20
def pipe : Nat := 21
def caret : Nat := 22
def ampersand : Nat := 23
def xor : Nat := 24
def sum : Nat := 30
def product : Nat := 40
def timeZone : Nat := 41
def bracket : Nat := 50

end Precedence

/-- The operators that are symbols, with how tightly each of them binds. -/
def symbolOperators : List (Symbol × BinaryOp × Nat) :=
  let binding (precedence : Nat) (operators : List (Symbol × BinaryOp)) :
      List (Symbol × BinaryOp × Nat) :=
    operators.map fun (s, op) => (s, op, precedence)
  binding Precedence.comparison
      [(.equal, .equal), (.doubleEqual, .equal), (.notEqual, .notEqual), (.less, .less),
       (.lessEqual, .lessEqual), (.greater, .greater), (.greaterEqual, .greaterEqual),
       (.nullSafeEqual, .nullSafeEqual), (.tilde, .matches), (.tildeStar, .matchesAnyCase),
       (.notTilde, .notMatches), (.notTildeStar, .notMatchesAnyCase), (.doubleTilde, .like),
       (.doubleTildeStar, .likeAnyCase), (.notDoubleTilde, .notLike),
       (.notDoubleTildeStar, .notLikeAnyCase)]
    ++ binding Precedence.pipe [(.pipe, .bitOr)]
    ++ binding Precedence.caret
      [(.caret, .bitXor), (.shiftLeft, .shiftLeft), (.shiftRight, .shiftRight)]
    ++ binding Precedence.ampersand [(.ampersand, .bitAnd)]
    ++ binding Precedence.sum [(.plus, .plus), (.minus, .minus)]
    ++ binding Precedence.product
      [(.star, .times), (.slash, .divide), (.doubleSlash, .integerDivide), (.percent, .modulo),
       (.concat, .concat)]
    ++ binding Precedence.arrow
      [(.arrow, .arrow), (.longArrow, .longArrow), (.sharpArrow, .sharpArrow),
       (.longSharpArrow, .longSharpArrow), (.sharpMinus, .sharpMinus), (.atArrow, .contains),
       (.containedBy, .containedBy), (.atQuestion, .pathExists), (.doubleAtSign, .pathMatches)]
    ++ binding Precedence.bracket [(.doubleAmpersand, .overlaps), (.caretAt, .startsWith)]

/-- The operator that a keyword stands for between two operands, and how tightly it binds. -/
def keywordOperator? (k : String) : Option (BinaryOp × Nat) :=
  match k with
  | "OR" => some (.or, Precedence.or)
  | "AND" => some (.and, Precedence.and)
  | "XOR" => some (.xor, Precedence.xor)
  | _ => none

/-- The operator that a token stands for between two operands, and how tightly it binds. -/
def operator? : Token → Option (BinaryOp × Nat)
  | .symbol s => symbolOperators.lookup s
  | .word w => keywordOperator? w.keyword
  | _ => none

/-- How tightly a symbol binds that goes on with the operand before it and is no operator between
two operands. -/
def suffixPrecedence : Symbol → Nat
  | .doubleColon | .leftBracket | .bang => Precedence.bracket
  | .sharp => Precedence.caret
  | _ => 0

/-- How tightly the keyword of a test binds: `IN`, `BETWEEN`, and the comparisons with patterns. -/
def testPrecedence (k : String) : Nat :=
  if ["IN", "BETWEEN"].contains k then Precedence.comparison
  else if ["LIKE", "ILIKE", "RLIKE", "REGEXP", "SIMILAR"].contains k then Precedence.pattern
  else 0

/-- How tightly a keyword binds that is no operator of its own, given the keywords behind it. -/
def keywordPrecedence (k : String) (behind : List String) : Nat :=
  match k with
  | "IS" => Precedence.is
  | "NOT" => testPrecedence (behind.headD "")
  | "AT" => if behind.take 2 == ["TIME", "ZONE"] then Precedence.timeZone else 0
  | "OPERATOR" => Precedence.comparison
  | "DIV" => Precedence.product
  | k => testPrecedence k

/-- How tightly the token in front binds to the operand before it; zero where no operator is. -/
def precedenceAhead : List Token → Nat
  | [] => 0
  | t :: rest =>
    match operator? t with
    | some (_, p) => p
    | none => match t with
      | .symbol s => suffixPrecedence s
      | .word w => keywordPrecedence w.keyword ((rest.take 2).map keywordOf)
      | _ => 0

/-- Whether a comparison may go on with `ALL`, `ANY` or `SOME`. -/
def BinaryOp.isComparison : BinaryOp → Bool
  | .equal | .notEqual | .less | .lessEqual | .greater | .greaterEqual => true
  | _ => false

/-- At most `rounds` tokens, each behind a point. -/
def operatorNames : (rounds : Nat) → Parser (List String)
  | 0 => return []
  | rounds + 1 => do
    if ← symbol? .period then
      let t ← next
      return t.spelling :: (← operatorNames rounds)
    else return []

/-- The qualified name of an operator in parentheses; any token may be part of it. -/
def operatorName : Parser String :=
  inParens do
    let t ← next
    return ".".intercalate (t.spelling :: (← operatorNames (← remaining)))

end MetricQuery.Sql.Grammar
