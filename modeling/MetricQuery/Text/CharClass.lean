import MetricQuery.Text.CharTable

/-!
# Character classes — letters, digits, blanks and word characters

The classes follow the Unicode properties of the same names, so a name in any script is a name.
-/

namespace MetricQuery.Text

/-- A letter of any script (the property `Alphabetic`). -/
def isAlphabetic (c : Char) : Bool :=
  if c.toNat < 0x80 then c.isAlpha else inRanges alphabeticRanges c

/-- A numeral of any script: a decimal digit, a letter number such as `Ⅷ`, or another number such
as `½`. -/
def isNumeric (c : Char) : Bool :=
  if c.toNat < 0x80 then c.isDigit else inRanges numericRanges c

/-- A letter or a numeral. -/
def isAlphanumeric (c : Char) : Bool :=
  isAlphabetic c || isNumeric c

/-- White space (the property `White_Space`): the six ASCII blanks, the no-break space, the
ideographic space and their like. -/
def isBlank (c : Char) : Bool :=
  if c.toNat < 0x80 then c == ' ' || (9 ≤ c.toNat && c.toNat ≤ 13) else inRanges blankRanges c

/-- A character that belongs to a word: a letter, a mark, a decimal digit, a connector such as
`_`, or a joiner. -/
def isWordChar (c : Char) : Bool :=
  if c.toNat < 0x80 then c.isAlphanum || c == '_'
  else inRanges alphabeticRanges c || inRanges markRanges c

/-- A character that has letter case. -/
def isCased (c : Char) : Bool :=
  if c.toNat < 0x80 then c.isAlpha else inRanges casedRanges c

/-- A character that letter-case rules look through, such as an apostrophe or a combining
accent. -/
def isCaseIgnorable (c : Char) : Bool :=
  if c.toNat < 0x80 then c == '\'' || c == '.' || c == ':' || c == '^' || c == '`'
  else inRanges caseIgnorableRanges c

/-- A text without the blanks at its two ends. -/
def trim (s : String) : String :=
  String.ofList ((s.toList.dropWhile isBlank).reverse.dropWhile isBlank).reverse

end MetricQuery.Text
