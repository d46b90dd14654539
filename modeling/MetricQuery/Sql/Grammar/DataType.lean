import MetricQuery.Sql.Grammar.ColumnOption

/-!
# Types — the names of data types and what stands behind them

A type is kept as its canonical text, with the expressions that its columns hold if it is a nested
table: the known types each in their own spelling, others as they are written. The closing marks of
two types in angle brackets may be read as one symbol `>>`; the inner one of the two then tells the
outer one that it is closed already.
-/

namespace MetricQuery.Sql.Grammar

/-- A type as it is read. -/
inductive DataType where
  /-- A known type, in its canonical text. -/
  | known (text : Phrase)
  /-- A type of any other name. -/
  | custom (text : String)
  | interval

/-- The canonical text of a type. -/
def DataType.phrase : DataType → Phrase
  | .known text => text
  | .custom text => .ofText text
  | .interval => "INTERVAL"

/-- A type, and whether the mark that closes the type around it has been read with it. -/
abbrev NestedType := DataType × Bool

/-! ## Types without types in them -/

/-- What may stand behind the name of a known type. -/
inductive TypeSuffix where
  | nothing
  /-- `(n)` -/
  | precision
  /-- `(p)` or `(p,s)` -/
  | precisionAndScale
  /-- `(n)`, with a unit or as `(MAX)` -/
  | length
  /-- `(n)` behind `VARYING` or `LARGE OBJECT`, or a length -/
  | character
  /-- `(n)`, which may stand behind `VARYING` -/
  | bits
  /-- `(n)`, then `UNSIGNED` -/
  | displayWidth
  /-- `PRECISION` -/
  | precisionWord
  /-- `(n)`, then a remark on the time zone -/
  | timeZone
  /-- `(n)`, which has to be there -/
  | fixedLength
  /-- `(n)` or `(n, 'zone')`, which has to be there -/
  | zonedPrecision
  /-- Texts in parentheses, each with a number if it has one -/
  | numberedTexts
  /-- Texts in parentheses -/
  | texts

/-- The known types by their keywords: how each is spelled, and what may stand behind it. -/
def knownTypes : List (String × String × TypeSuffix) :=
  let plain := ["BOOLEAN", "BOOL", "REAL", "FLOAT4", "FLOAT8", "FLOAT64", "INT64", "TINYBLOB",
    "MEDIUMBLOB", "LONGBLOB", "UUID", "DATE", "JSON", "JSONB", "REGCLASS", "TEXT", "TINYTEXT",
    "MEDIUMTEXT", "LONGTEXT", "BYTEA", "TRIGGER"]
  let withCase := ["Float32", "Int16", "Int32", "Int128", "Int256", "UInt8", "UInt16", "UInt32",
    "UInt64", "UInt128", "UInt256", "Date32"]
  let ofSuffix (suffix : TypeSuffix) (names : List String) :=
    names.map fun name => (Text.upper name, name, suffix)
  ofSuffix .nothing (plain ++ withCase)
    ++ ofSuffix .precision
      ["FLOAT", "CLOB", "BINARY", "VARBINARY", "BLOB", "BYTES", "DATETIME", "TIMESTAMPTZ", "TIMETZ",
        "STRING"]
    ++ ofSuffix .precisionAndScale ["NUMERIC", "DECIMAL", "DEC", "BIGNUMERIC", "BIGDECIMAL"]
    ++ ofSuffix .length ["VARCHAR", "NVARCHAR"]
    ++ ofSuffix .character ["CHARACTER", "CHAR"]
    ++ ofSuffix .bits ["BIT"]
    ++ ofSuffix .displayWidth
      ["TINYINT", "INT2", "SMALLINT", "MEDIUMINT", "INT", "INT4", "INT8", "INTEGER", "BIGINT"]
    ++ ofSuffix .precisionWord ["DOUBLE"]
    ++ ofSuffix .timeZone ["TIMESTAMP", "TIME"]
    ++ ofSuffix .fixedLength ["FixedString"]
    ++ ofSuffix .zonedPrecision ["DateTime64"]
    ++ ofSuffix .numberedTexts ["ENUM", "ENUM8", "ENUM16"]
    ++ ofSuffix .texts ["SET"]

/-- `(n)`, or nothing. -/
def precisionText : Parser String := do
  if ← atSymbol .leftParen then return parenthesized (toString (← inParens natural))
  else return ""

/-- `(p)` or `(p,s)`, or nothing. -/
def precisionAndScaleText : Parser String := do
  if ← symbol? .leftParen then
    let p ← natural
    let scale ← if ← symbol? .comma then pure ("," ++ toString (← natural)) else pure ""
    symbol .rightParen
    return parenthesized (toString p ++ scale)
  else return ""

/-- A length in parentheses, or nothing. -/
def lengthText : Parser String := do
  if ← symbol? .leftParen then
    let length ←
      if ← keyword? "MAX" then pure "MAX"
      else
        let n ← natural
        pure (toString n ++ spaced id (← oneOfKeywords? ["CHARACTERS", "OCTETS"]))
    symbol .rightParen
    return parenthesized length
  else return ""

/-- A text in parentheses of a type, with its number if it has one. -/
def numberedText : Parser String := do
  let name := TextStyle.single.write (← literalText)
  if ← symbol? .equal then return name ++ " = " ++ (← signedNumberText) else return name

/-- What stands behind the name of a known type, in its canonical text. -/
def TypeSuffix.read : TypeSuffix → Parser String
  | .nothing => return ""
  | .precision => precisionText
  | .precisionAndScale => precisionAndScaleText
  | .length => lengthText
  | .character => do
    if ← keyword? "VARYING" then return " VARYING" ++ (← lengthText)
    else if ← keywords? ["LARGE", "OBJECT"] then return " LARGE OBJECT" ++ (← precisionText)
    else lengthText
  | .bits => do
    if ← keyword? "VARYING" then return " VARYING" ++ (← precisionText) else precisionText
  | .displayWidth => do
    let width ← precisionText
    return width ++ (if ← keyword? "UNSIGNED" then " UNSIGNED" else "")
  | .precisionWord => return if ← keyword? "PRECISION" then " PRECISION" else ""
  | .timeZone => do
    let width ← precisionText
    if ← keyword? "WITH" then
      keywords ["TIME", "ZONE"]
      return width ++ " WITH TIME ZONE"
    else if ← keyword? "WITHOUT" then
      keywords ["TIME", "ZONE"]
      return width ++ " WITHOUT TIME ZONE"
    else return width
  | .fixedLength => return parenthesized (toString (← inParens natural))
  | .zonedPrecision => inParens do
    let n ← natural
    let zone ← if ← symbol? .comma then pure (", '" ++ (← literalText) ++ "'") else pure ""
    return parenthesized (toString n ++ zone)
  | .numberedTexts => return parenthesized (commaSeparated (← inParens (commaList numberedText)))
  | .texts => do
    let items ← inParens (commaList quotedText)
    return parenthesized (commaSeparated (items.map TextStyle.single.write))

/-! ## Types of other names -/

/-- The modifiers of a custom type, up to the closing parenthesis. -/
def typeModifiers : (rounds : Nat) → Parser (List String)
  | 0 => unexpected
  | rounds + 1 => do
    match ← next with
    | .symbol .rightParen => return []
    | .symbol .comma => typeModifiers rounds
    | .word w => return w.spelling :: (← typeModifiers rounds)
    | .number digits _ => return digits :: (← typeModifiers rounds)
    | .text .single s => return s :: (← typeModifiers rounds)
    | _ => unexpected

/-- A type of a name that is not known. -/
def customType : Parser DataType := do
  let name := renderPath (← path)
  if ← symbol? .leftParen then
    let modifiers ← typeModifiers (← remaining)
    if modifiers.isEmpty then return .custom name
    else return .custom (name ++ parenthesized (commaSeparated modifiers))
  else return .custom name

/-! ## Types with types in them -/

/-- Brackets behind a type, each pair of which makes an array of it. -/
def arraySuffixes (type : DataType) : (rounds : Nat) → Parser DataType
  | 0 => return type
  | rounds + 1 => do
    if ← symbol? .leftBracket then
      let size ← attempt natural
      symbol .rightBracket
      let brackets := "[" ++ (size.map toString).getD "" ++ "]"
      arraySuffixes (.known (type.phrase ++ brackets)) rounds
    else return type

/-- The mark that closes a type in angle brackets, unless it has been read with the type inside.
Tells whether it closes the type around this one too. -/
def closingAngle (closed : Bool) : Parser Bool := do
  if closed then return false
  match ← next with
  | .symbol .greater => return false
  | .symbol .shiftRight => return true
  | _ => unexpected

/-- A field of a composite type: its type, behind its name where two words stand in front. -/
def compositeField (type : Parser NestedType) : Parser (Phrase × Bool) := do
  match (← get).take 2 with
  | [.word _, .word _] =>
    let name ← ident
    let (t, closed) ← type
    return (.ofText (name.render ++ " ") ++ t.phrase, closed)
  | _ =>
    let (t, closed) ← type
    return (t.phrase, closed)

/-- At most `rounds` fields of a composite type in angle brackets. Only the last one may close the
brackets. -/
def compositeFields (type : Parser NestedType) : (rounds : Nat) → Parser (List Phrase × Bool)
  | 0 => unexpected
  | rounds + 1 => do
    let (field, closed) ← compositeField type
    if ← symbol? .comma then
      if closed then unexpected
      let (fields, closed) ← compositeFields type rounds
      return (field :: fields, closed)
    else return ([field], closed)

/-- The fields of a composite type in angle brackets behind its keyword, if any are given. -/
def compositeTypes (type : Parser NestedType) : Parser (Option Phrase × Bool) := do
  if ← symbol? .less then
    let (fields, closed) ← compositeFields type (← remaining)
    return (some ("<" ++ .commaSeparated fields ++ ">"), ← closingAngle closed)
  else return (none, false)

/-- A type in a place of its own, of which no closing mark may be left over. -/
def closedType (type : Parser NestedType) : Parser Phrase := do
  let (t, closed) ← type
  if closed then unexpected else return t.phrase

/-- A column of a nested table: a name, a type and options. -/
def columnPhrase (inner : Inner) (type : Parser NestedType) : Parser Phrase := do
  let name ← ident
  let type ← closedType type
  return .ofText (name.render ++ " ") ++ type ++ (← columnOptionsPhrase inner)

/-- The type that a keyword opens and that has types in it, behind the keyword; nothing if the
keyword opens none. -/
def compoundType? (inner : Inner) (type : Parser NestedType) (k : String) :
    Option (Parser NestedType) :=
  let closed (name : String) (items : Parser Phrase) : Parser NestedType := do
    return (.known (name ++ .parenthesized (← inParens items)), false)
  match k with
  | "ARRAY" => some do
    symbol .less
    let (item, closed) ← type
    return (.known ("ARRAY<" ++ item.phrase ++ ">"), ← closingAngle closed)
  | "STRUCT" => some do
    let (fields, closed) ← compositeTypes type
    return (.known ("STRUCT" ++ fields.getD .empty), closed)
  | "UNION" => some <| closed "UNION" do
    return .commaSeparated (← commaList do
      let name ← ident
      return .ofText (name.render ++ " ") ++ (← closedType type))
  | "NULLABLE" => some <| closed "Nullable" (closedType type)
  | "LOWCARDINALITY" => some <| closed "LowCardinality" (closedType type)
  | "MAP" => some <| closed "Map" do
    let key ← closedType type
    symbol .comma
    return key ++ ", " ++ (← closedType type)
  | "NESTED" => some <| closed "Nested" (.commaSeparated <$> commaList (columnPhrase inner type))
  | "TUPLE" => some <| closed "Tuple" do
    return .commaSeparated ((← commaList (compositeField type)).map (·.1))
  | _ => none

/-- A type nested at most `depth` levels. -/
def dataTypeWithin (inner : Inner) : (depth : Nat) → Parser NestedType
  | 0 => unexpected
  | depth + 1 => do
    match ← peek? with
    | some (.word w) =>
      let (type, closed) ←
        if ← keyword? "INTERVAL" then pure (.interval, false)
        else match compoundType? inner (dataTypeWithin inner depth) w.keyword with
          | some compound =>
            keyword w.keyword
            compound
          | none => match knownTypes.lookup w.keyword with
            | some (name, suffix) =>
              keyword w.keyword
              pure (.known (name ++ (← suffix.read)), false)
            | none => pure (← customType, false)
      return (← arraySuffixes type (← remaining), closed)
    | _ => unexpected

/-- A type, and whether a closing mark is left over. -/
def nestedType (inner : Inner) : Parser NestedType := do
  dataTypeWithin inner (← remaining)

/-- A type. -/
def dataType (inner : Inner) : Parser DataType := do
  let (type, closed) ← nestedType inner
  if closed then unexpected else return type

/-- A type, as a part of a tree. -/
def typeTree (inner : Inner) : Parser SyntaxTree :=
  return (← dataType inner).phrase.toTree

/-- The definition of a column of a table. -/
def columnDefinition (inner : Inner) : Parser Phrase := do
  columnPhrase inner (nestedType inner)

end MetricQuery.Sql.Grammar
