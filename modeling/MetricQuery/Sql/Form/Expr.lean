import MetricQuery.Sql.TextStyle

/-!
# Forms of expressions — what an expression is apart from its operands

The form carries everything about an expression that is not itself a subtree: names, operators,
literals, flags. The doc comment of a form says which parts it has where that is not plain.
-/

namespace MetricQuery.Sql

/-- A name in a query, with its quote mark if it has one. -/
structure Ident where
  name : String
  quote : Option Char
  deriving DecidableEq

/-- An unquoted name. -/
def Ident.plain (name : String) : Ident :=
  ⟨name, none⟩

/-- A literal value. -/
inductive Literal where
  /-- A number as it is spelled; `long` tells of a suffix `L`. -/
  | number (digits : String) (long : Bool)
  | text (style : TextStyle) (s : String)
  | boolean (value : Bool)
  | null
  | placeholder (s : String)
  deriving DecidableEq

/-! ## Parts of expressions -/

/-- An operator in front of its operand. -/
inductive UnaryOp where
  | plus | minus | not | prior
  deriving DecidableEq

/-- An operator between its operands. -/
inductive BinaryOp where
  | or | and | xor
  | equal | notEqual | less | lessEqual | greater | greaterEqual | nullSafeEqual
  | plus | minus | times | divide | integerDivide | modulo | concat
  | bitOr | bitAnd | bitXor | shiftLeft | shiftRight
  | matches | matchesAnyCase | notMatches | notMatchesAnyCase
  | like | likeAnyCase | notLike | notLikeAnyCase
  | arrow | longArrow | sharpArrow | longSharpArrow | sharpMinus
  | contains | containedBy | overlaps | startsWith | pathExists | pathMatches
  /-- An operator by its qualified name. -/
  | custom (name : String)
  deriving DecidableEq

/-- What `IS` tests for. -/
inductive Truth where
  | null | true | false | unknown
  deriving DecidableEq

/-- A comparison with a pattern. -/
inductive PatternKind where
  | like | ilike | similarTo | rlike | regexp
  deriving DecidableEq

/-- How many of the values on the right a comparison has to hold for. -/
inductive Quantifier where
  | all | any | some
  deriving DecidableEq

/-- The ways to write a conversion to a type. -/
inductive CastStyle where
  | cast | tryCast | safeCast | doubleColon
  deriving DecidableEq

/-- How a conversion writes or reads a value, and in which time zone. -/
structure CastFormat where
  value : Literal
  zone : Option Literal
  deriving DecidableEq

/-- How `MATCH … AGAINST` searches for a text. -/
inductive SearchMode where
  | naturalLanguage | naturalLanguageExpanded | boolean | expanded
  deriving DecidableEq

/-- The end of a text that `TRIM` shortens. -/
inductive TrimSide where
  | both | leading | trailing
  deriving DecidableEq

/-- What a rounded value is rounded to. -/
inductive RoundingUnit where
  | whole
  | field (name : String)
  | scale (digits : Literal)
  deriving DecidableEq

/-- The fields of time that an interval counts, each with a number of digits. -/
structure IntervalUnits where
  field : Option String
  precision : Option Nat
  last : Option String
  /-- The digits of a fraction of a second. -/
  fraction : Option Nat
  deriving DecidableEq

/-- What a window function does with null values. -/
inductive NullTreatment where
  | ignore | respect
  deriving DecidableEq

/-- The sign between an argument's name and its value. -/
inductive ArgumentSign where
  | fatArrow | assign | value
  deriving DecidableEq

/-- The form of an expression. -/
inductive ExprForm where
  /-- A column: the parts in front of its name, and the name. No parts. -/
  | column (qualifier : List Ident) (name : Ident)
  | literal (value : Literal)
  /-- A text behind the name of its character set, such as `_utf8 'x'`. -/
  | introduced (charset : String) (value : Literal)
  /-- A text read as a value of a type, such as `DATE '2024-01-01'`. The part is the type. -/
  | typedText (s : String)
  | nested
  | tuple
  | unary (op : UnaryOp)
  | binary (op : BinaryOp)
  | isTruth (test : Truth) (negated : Bool)
  | isDistinctFrom (negated : Bool)
  /-- Value, low bound, high bound. -/
  | between (negated : Bool)
  /-- Value, then the items. -/
  | inList (negated : Bool)
  /-- Value, then the query. -/
  | inQuery (negated : Bool)
  /-- Value, then an array. -/
  | inUnnest (negated : Bool)
  | pattern (kind : PatternKind) (negated anyOf : Bool) (escape : Option String)
  | quantified (op : BinaryOp) (q : Quantifier)
  /-- The operand if there is one, the conditions, the results, the `ELSE` value if there is one. -/
  | case (operand : Bool) (branches : Nat) (otherwise : Bool)
  /-- Value, then the type. -/
  | cast (style : CastStyle) (format : Option CastFormat)
  /-- A conversion to a type, to a character set, or to both; `attempted` tells of `TRY_`. Value,
  then the type (or absent). -/
  | convert (attempted : Bool) (charset : Option (List Ident))
  | extract (field : String) (comma : Bool)
  | ceil (unit : RoundingUnit)
  | floor (unit : RoundingUnit)
  /-- What is sought, then where. -/
  | position
  /-- Text, start, length; `comma` tells of commas in place of `FROM` and `FOR`. -/
  | substring (comma : Bool)
  /-- Text, what is put into it, start, length (or absent). -/
  | overlay
  /-- The text, what is trimmed off it (or absent), then the characters given behind commas. -/
  | trim (side : Option TrimSide)
  | interval (units : IntervalUnits)
  | atTimeZone
  | collate (collation : List Ident)
  /-- A search in columns; they are names, and so are no parts. -/
  | matchAgainst (columns : List Ident) (value : Literal) (mode : Option SearchMode)
  | array (isNamed : Bool)
  /-- The fields of a composite value, then their types (or absent), which are written in front of
  all values. -/
  | composite
  /-- A field of a composite value with its name. -/
  | named (name : Ident)
  /-- Values under names, between braces. -/
  | dictionary (names : List Ident)
  /-- Keys and values in turn. -/
  | mapping
  | index
  /-- Array, low bound, high bound, stride; each bound may be absent. -/
  | slice
  | exists (negated : Bool)
  | subquery
  /-- A field of a composite value. -/
  | access (key : Ident)
  /-- A function call: parameters, arguments, window, `WITHIN GROUP`, each absent if not written.
  `braces` tells of a call in braces, behind `fn`. -/
  | call (name : List Ident) (nulls : Option NullTreatment) (braces : Bool)
  /-- The parts of the next three are `ClauseForm.groupingSet`s. -/
  | groupingSets
  | cube
  | rollup
  deriving DecidableEq

end MetricQuery.Sql
