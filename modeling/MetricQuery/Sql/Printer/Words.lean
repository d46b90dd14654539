import MetricQuery.Sql.Form.Clause

/-!
# Words of a query — the canonical texts of what forms carry

Names, literals, operators and the keywords of a construct, each as it stands in a printed query.
-/

namespace MetricQuery.Sql

open MetricQuery.Text

/-! ## Pieces of text -/

/-- Items parted by commas. -/
def commaSeparated (items : List String) : String :=
  ", ".intercalate items

/-- A text in parentheses. -/
def parenthesized (s : String) : String :=
  "(" ++ s ++ ")"

/-- The text behind a space if the condition holds, and nothing otherwise. -/
def spacedIf (condition : Bool) (s : String) : String :=
  if condition then " " ++ s else ""

/-- The text of a thing behind a space, if it is there. -/
def spaced {α : Type} (render : α → String) : Option α → String
  | none => ""
  | some a => " " ++ render a

/-! ## Names and literals -/

/-- A name as it is written, with its quote marks. -/
def Ident.render (i : Ident) : String :=
  match i.quote with
  | none => i.name
  | some mark => quoted mark i.name

/-- A qualified name. -/
def renderPath (path : List Ident) : String :=
  ".".intercalate (path.map Ident.render)

theorem renderPath_plain (name : String) : renderPath [.plain name] = name := by
  simp [renderPath, Ident.render, Ident.plain]

/-- Names parted by commas. -/
def renderNames (names : List Ident) : String :=
  commaSeparated (names.map Ident.render)

/-- A literal as it is written. -/
def Literal.render : Literal → String
  | .number digits long => digits ++ (if long then "L" else "")
  | .text style s => style.write s
  | .boolean value => if value then "true" else "false"
  | .null => "NULL"
  | .placeholder s => s

/-- One thing by itself, or things in parentheses. -/
def Listed.render {α : Type} (item : α → String) : Listed α → String
  | alone a => item a
  | inParens as => "(" ++ commaSeparated (as.map item) ++ ")"

/-! ## Expressions -/

def UnaryOp.render : UnaryOp → String
  | .plus => "+"
  | .minus => "-"
  | .not => "NOT "
  | .prior => "PRIOR "

def BinaryOp.render : BinaryOp → String
  | .or => "OR" | .and => "AND" | .xor => "XOR"
  | .equal => "=" | .notEqual => "<>" | .less => "<" | .lessEqual => "<="
  | .greater => ">" | .greaterEqual => ">=" | .nullSafeEqual => "<=>"
  | .plus => "+" | .minus => "-" | .times => "*" | .divide => "/" | .integerDivide => "//"
  | .modulo => "%" | .concat => "||"
  | .bitOr => "|" | .bitAnd => "&" | .bitXor => "^" | .shiftLeft => "<<" | .shiftRight => ">>"
  | .matches => "~" | .matchesAnyCase => "~*" | .notMatches => "!~" | .notMatchesAnyCase => "!~*"
  | .like => "~~" | .likeAnyCase => "~~*" | .notLike => "!~~" | .notLikeAnyCase => "!~~*"
  | .arrow => "->" | .longArrow => "->>" | .sharpArrow => "#>" | .longSharpArrow => "#>>"
  | .sharpMinus => "#-" | .contains => "@>" | .containedBy => "<@" | .overlaps => "&&"
  | .startsWith => "^@" | .pathExists => "@?" | .pathMatches => "@@"
  | .custom name => "OPERATOR(" ++ name ++ ")"

def Truth.render : Truth → String
  | .null => "NULL" | .true => "TRUE" | .false => "FALSE" | .unknown => "UNKNOWN"

def PatternKind.render : PatternKind → String
  | .like => "LIKE" | .ilike => "ILIKE" | .similarTo => "SIMILAR TO" | .rlike => "RLIKE"
  | .regexp => "REGEXP"

def Quantifier.render : Quantifier → String
  | .all => "ALL" | .any => "ANY" | .some => "SOME"

def CastFormat.render (f : CastFormat) : String :=
  "FORMAT " ++ f.value.render
    ++ (match f.zone with | none => "" | some zone => " AT TIME ZONE " ++ zone.render)

def SearchMode.render : SearchMode → String
  | .naturalLanguage => "IN NATURAL LANGUAGE MODE"
  | .naturalLanguageExpanded => "IN NATURAL LANGUAGE MODE WITH QUERY EXPANSION"
  | .boolean => "IN BOOLEAN MODE"
  | .expanded => "WITH QUERY EXPANSION"

def TrimSide.render : TrimSide → String
  | .both => "BOTH" | .leading => "LEADING" | .trailing => "TRAILING"

/-- A number of digits in parentheses, behind a space. -/
def renderPrecision (p : Option Nat) : String :=
  spaced (fun n => parenthesized (toString n)) p

/-- The units behind the value of an interval. The two precisions of seconds stand in one pair of
parentheses. -/
def IntervalUnits.render (u : IntervalUnits) : String :=
  match u.field, u.precision, u.fraction with
  | some "SECOND", some p, some f => " SECOND (" ++ toString p ++ ", " ++ toString f ++ ")"
  | _, _, _ =>
    spaced id u.field ++ renderPrecision u.precision
      ++ (match u.last with | none => "" | some last => " TO " ++ last)
      ++ renderPrecision u.fraction

def NullTreatment.render : NullTreatment → String
  | .ignore => "IGNORE NULLS" | .respect => "RESPECT NULLS"

def ArgumentSign.render : ArgumentSign → String
  | .fatArrow => "=>" | .assign => ":=" | .value => "VALUE"

/-! ## Queries -/

def SetOperator.render : SetOperator → String
  | .union => "UNION" | .except => "EXCEPT" | .intersect => "INTERSECT"

/-- The words behind a set operator; none for the default. -/
def SetQuantifier.render : SetQuantifier → String
  | .all => " ALL" | .distinct => " DISTINCT" | .byName => " BY NAME"
  | .allByName => " ALL BY NAME" | .distinctByName => " DISTINCT BY NAME" | .default => ""

def FrameUnit.render : FrameUnit → String
  | .rows => "ROWS" | .range => "RANGE" | .groups => "GROUPS"

def FrameSide.render : FrameSide → String
  | .preceding => "PRECEDING" | .following => "FOLLOWING"

def OffsetUnit.render : OffsetUnit → String
  | .none => "" | .row => " ROW" | .rows => " ROWS"

def GroupingModifier.render : GroupingModifier → String
  | .rollup => " WITH ROLLUP" | .cube => " WITH CUBE" | .totals => " WITH TOTALS"

def JoinKind.render : JoinKind → String
  | .inner => "JOIN" | .left => "LEFT JOIN" | .right => "RIGHT JOIN" | .full => "FULL JOIN"
  | .cross => "CROSS JOIN" | .semi => "SEMI JOIN" | .anti => "ANTI JOIN"
  | .leftSemi => "LEFT SEMI JOIN" | .rightSemi => "RIGHT SEMI JOIN"
  | .leftAnti => "LEFT ANTI JOIN" | .rightAnti => "RIGHT ANTI JOIN"
  | .crossApply => "CROSS APPLY" | .outerApply => "OUTER APPLY" | .asof => "ASOF JOIN"

def Setting.render (s : Setting) : String :=
  s.name.render ++ " = " ++ s.value.render

/-- Settings behind their keyword. -/
def renderSettings (settings : List Setting) : String :=
  "SETTINGS " ++ commaSeparated (settings.map Setting.render)

def RowLock.render (l : RowLock) : String :=
  (if l.exclusive then "FOR UPDATE" else "FOR SHARE")
    ++ (match l.table with | none => "" | some name => " OF " ++ renderPath name)
    ++ (match l.nowait with | none => "" | some true => " NOWAIT" | some false => " SKIP LOCKED")

def XmlShape.render : XmlShape → String
  | .raw none => "RAW"
  | .raw (some element) => "RAW('" ++ element ++ "')"
  | .auto => "AUTO"
  | .explicit => "EXPLICIT"
  | .path none => "PATH"
  | .path (some element) => "PATH('" ++ element ++ "')"

def DocumentFormat.render : DocumentFormat → String
  | .browse => "FOR BROWSE"
  | .json path root includeNulls withoutWrapper =>
    "FOR JSON " ++ (if path then "PATH" else "AUTO")
      ++ (match root with | none => "" | some name => ", ROOT('" ++ name ++ "')")
      ++ (if includeNulls then ", INCLUDE_NULL_VALUES" else "")
      ++ (if withoutWrapper then ", WITHOUT_ARRAY_WRAPPER" else "")
  | .xml shape root base64 typed elements =>
    "FOR XML " ++ shape.render ++ (if base64 then ", BINARY BASE64" else "")
      ++ (if typed then ", TYPE" else "")
      ++ (match root with | none => "" | some name => ", ROOT('" ++ name ++ "')")
      ++ (if elements then ", ELEMENTS" else "")

/-- The settings, which stand in front of `FETCH`. -/
def QueryOptions.settingTexts (o : QueryOptions) : List String :=
  if o.settings.isEmpty then [] else [renderSettings o.settings]

/-- What stands at the very end of a query. -/
def QueryOptions.endTexts (o : QueryOptions) : List String :=
  o.locks.map RowLock.render ++ (o.document.map DocumentFormat.render).toList
    ++ match o.format with
      | none => []
      | some none => ["FORMAT NULL"]
      | some (some name) => ["FORMAT " ++ name.render]

def IntoTable.render (t : IntoTable) : String :=
  "INTO" ++ spacedIf t.temporary "TEMPORARY" ++ spacedIf t.unlogged "UNLOGGED"
    ++ spacedIf t.tableWord "TABLE" ++ " " ++ renderPath t.name

/-- The options of a star around the text of the columns that it replaces. -/
def StarOptions.render (o : StarOptions) (replaced : String) : String :=
  (match o.pattern with | none => "" | some s => " ILIKE " ++ quoted '\'' s)
    ++ (match o.exclude with | none => "" | some names => " EXCLUDE " ++ names.render Ident.render)
    ++ (if o.except.isEmpty then "" else " EXCEPT (" ++ renderNames o.except ++ ")")
    ++ replaced
    ++ (match o.rename with
        | none => ""
        | some names => " RENAME " ++ names.render fun (a, b) => a.render ++ " AS " ++ b.render)

def JsonFallback.render : JsonFallback → String
  | .null => "NULL"
  | .error => "ERROR"
  | .value v => "DEFAULT " ++ v.render

def EmptyMatches.render : EmptyMatches → String
  | .showEmpty => "SHOW EMPTY MATCHES"
  | .omitEmpty => "OMIT EMPTY MATCHES"
  | .withUnmatched => "WITH UNMATCHED ROWS"

def RowsPerMatch.render : RowsPerMatch → String
  | .one => "ONE ROW PER MATCH"
  | .all empty => "ALL ROWS PER MATCH" ++ spaced EmptyMatches.render empty

def SkipTarget.render : SkipTarget → String
  | .pastLastRow => "AFTER MATCH SKIP PAST LAST ROW"
  | .nextRow => "AFTER MATCH SKIP  TO NEXT ROW"
  | .first name => "AFTER MATCH SKIP TO FIRST " ++ name.render
  | .last name => "AFTER MATCH SKIP TO LAST " ++ name.render

/-! ## Changes -/

def ConflictRule.render : ConflictRule → String
  | .rollback => "OR ROLLBACK" | .abort => "OR ABORT" | .fail => "OR FAIL"
  | .ignore => "OR IGNORE" | .replace => "OR REPLACE"

def InsertPriority.render : InsertPriority → String
  | .low => "LOW_PRIORITY" | .delayed => "DELAYED" | .high => "HIGH_PRIORITY"

/-- An `INSERT` up to the names of the columns. A rule for conflicts leaves room for `INTO` only. -/
def InsertTarget.render (t : InsertTarget) : String :=
  let words := match t.rule with
    | some rule => " " ++ rule.render ++ " INTO"
    | none =>
      spaced InsertPriority.render t.priority ++ spacedIf t.ignores "IGNORE"
        ++ spacedIf t.overwrites "OVERWRITE" ++ spacedIf t.intoWord "INTO"
        ++ spacedIf t.tableWord "TABLE"
  "INSERT" ++ words ++ " " ++ renderPath t.name ++ " "
    ++ if t.columns.isEmpty then "" else "(" ++ renderNames t.columns ++ ") "

/-- The names that an `INSERT` gives to the new row and its columns. -/
def renderRowName : Option (List Ident × List Ident) → String
  | none => ""
  | some (name, columns) =>
    " AS " ++ renderPath name
      ++ if columns.isEmpty then "" else " (" ++ renderNames columns ++ ")"

def ConflictTarget.render : ConflictTarget → String
  | .constraint name => " ON CONSTRAINT " ++ renderPath name
  | .columns names => "(" ++ renderNames names ++ ")"

end MetricQuery.Sql
