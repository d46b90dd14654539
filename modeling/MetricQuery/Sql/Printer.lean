import MetricQuery.Sql.Printer.Words
import MetricQuery.Sql.SyntaxTree

/-!
# Printing — the canonical text of a syntax tree

Keywords are written in capitals, one space parts words, `, ` parts items. No parentheses are added
or left out: parentheses that were read are nodes of the tree. The text of a node is a function of
its form and of the texts of its parts (`Form.write`), so that a change below a node leaves what the
node itself writes as it is.
-/

namespace MetricQuery.Sql

open MetricQuery.Text

/-! ## The parts of a node -/

/-- A part of a node that is printed: its form, and its text. -/
abbrev PrintedPart := Form × String

/-- The text of the part at a position. -/
def textAt (parts : List PrintedPart) (i : Nat) : String :=
  ((parts[i]?).map (·.2)).getD ""

/-- Whether there is a part at a position that is not absent. -/
def presentAt (parts : List PrintedPart) (i : Nat) : Bool :=
  ((parts[i]?).map (·.1 != .clause .absent)).getD false

/-- The texts of the parts, parted by commas. -/
def textsWithCommas (parts : List PrintedPart) : String :=
  commaSeparated (parts.map (·.2))

/-- The texts of the parts that are there. -/
def presentTexts (parts : List PrintedPart) : List String :=
  (parts.filter (·.1 != .clause .absent)).map (·.2)

/-- The part at a position behind a separator, if it is there. -/
def textBehind (separator : String) (parts : List PrintedPart) (i : Nat) : String :=
  if presentAt parts i then separator ++ textAt parts i else ""

/-- Whether a part of an argument list stands behind the arguments. -/
def isArgumentClause : Form → Bool
  | .clause .orderBy | .clause .limit | .clause (.nullsArgument _) | .clause (.boundArgument _)
  | .clause (.separatorArgument _) | .clause (.overflowArgument _)
  | .clause (.jsonNullsArgument _) => true
  | _ => false

/-- Whether a part of an `ORDER BY` stands behind the items. -/
def isInterpolation : Form → Bool
  | .clause (.interpolate _) => true
  | _ => false

/-! ## Expressions -/

def negation (negated : Bool) : String :=
  if negated then "NOT " else ""

/-- `CASE` with its branches, given operand, conditions, results and `ELSE` value in one list. -/
def caseText (operand : Bool) (branches : Nat) (texts : List String) : String :=
  let (start, rest) := texts.splitAt (if operand then 1 else 0)
  let (conditions, rest) := rest.splitAt branches
  let (results, otherwise) := rest.splitAt branches
  "CASE" ++ String.join (start.map (" " ++ ·))
    ++ String.join (List.zipWith (fun c r => " WHEN " ++ c ++ " THEN " ++ r) conditions results)
    ++ String.join (otherwise.map (" ELSE " ++ ·)) ++ " END"

/-- A rounding function with what is rounded and what it is rounded to. -/
def roundingText (function value : String) : RoundingUnit → String
  | .whole => function ++ "(" ++ value ++ ")"
  | .field name => function ++ "(" ++ value ++ " TO " ++ name ++ ")"
  | .scale digits => function ++ "(" ++ value ++ ", " ++ digits.render ++ ")"

/-- A conversion of a value to a type. -/
def castText (style : CastStyle) (value type : String) (format : Option CastFormat) : String :=
  let call (function : String) :=
    function ++ "(" ++ value ++ " AS " ++ type ++ spaced CastFormat.render format ++ ")"
  match style with
  | .cast => call "CAST"
  | .tryCast => call "TRY_CAST"
  | .safeCast => call "SAFE_CAST"
  | .doubleColon => value ++ "::" ++ type

/-- A conversion of a value to a type, to a character set, or to both. -/
def convertText (attempted : Bool) (value type : String) (charset : Option (List Ident)) :
    String :=
  (if attempted then "TRY_CONVERT(" else "CONVERT(") ++ value
    ++ (match charset with
        | some charset =>
          if type.isEmpty then " USING " ++ renderPath charset
          else ", " ++ type ++ " CHARACTER SET " ++ renderPath charset
        | none => ", " ++ type)
    ++ ")"

/-- The comparison of a value with a pattern. The word `ANY` in front of the pattern of an `ILIKE`
with an escape character has no space behind it. -/
def patternText (value pattern : String) (kind : PatternKind) (negated anyOf : Bool)
    (escape : Option String) : String :=
  let any := if kind = .ilike && escape.isSome then "ANY" else "ANY "
  value ++ " " ++ negation negated ++ kind.render ++ " " ++ (if anyOf then any else "") ++ pattern
    ++ (match escape with | none => "" | some s => " ESCAPE '" ++ s ++ "'")

/-- Keys and values in turn, each pair with a colon. -/
def pairTexts : List String → List String
  | key :: value :: rest => (key ++ ": " ++ value) :: pairTexts rest
  | _ => []

/-- The text of an expression of a form, from the texts of its parts. -/
def ExprForm.write (parts : List PrintedPart) : ExprForm → String
  | .column qualifier name => renderPath (qualifier ++ [name])
  | .literal value => value.render
  | .introduced charset value => charset ++ " " ++ value.render
  | .typedText s => textAt parts 0 ++ " " ++ quoted '\'' s
  | .nested | .tuple => "(" ++ textsWithCommas parts ++ ")"
  | .unary op => op.render ++ textAt parts 0
  | .binary op => textAt parts 0 ++ " " ++ op.render ++ " " ++ textAt parts 1
  | .isTruth test negated => textAt parts 0 ++ " IS " ++ negation negated ++ test.render
  | .isDistinctFrom negated =>
    textAt parts 0 ++ " IS " ++ negation negated ++ "DISTINCT FROM " ++ textAt parts 1
  | .between negated =>
    textAt parts 0 ++ " " ++ negation negated ++ "BETWEEN " ++ textAt parts 1
      ++ " AND " ++ textAt parts 2
  | .inList negated =>
    textAt parts 0 ++ " " ++ negation negated ++ "IN (" ++ textsWithCommas (parts.drop 1) ++ ")"
  | .inQuery negated =>
    textAt parts 0 ++ " " ++ negation negated ++ "IN (" ++ textAt parts 1 ++ ")"
  | .inUnnest negated =>
    textAt parts 0 ++ " " ++ negation negated ++ "IN UNNEST(" ++ textAt parts 1 ++ ")"
  | .pattern kind negated anyOf escape =>
    patternText (textAt parts 0) (textAt parts 1) kind negated anyOf escape
  | .quantified op q =>
    let right := textAt parts 1
    textAt parts 0 ++ " " ++ op.render ++ " " ++ q.render
      ++ if (parts[1]?).map (·.1) = some (.expr .subquery) then right else "(" ++ right ++ ")"
  | .case operand branches _ => caseText operand branches (parts.map (·.2))
  | .cast style format => castText style (textAt parts 0) (textAt parts 1) format
  | .convert attempted charset =>
    convertText attempted (textAt parts 0) (textAt parts 1) charset
  | .extract field comma =>
    "EXTRACT(" ++ field ++ (if comma then ", " else " FROM ") ++ textAt parts 0 ++ ")"
  | .ceil unit => roundingText "CEIL" (textAt parts 0) unit
  | .floor unit => roundingText "FLOOR" (textAt parts 0) unit
  | .position => "POSITION(" ++ textAt parts 0 ++ " IN " ++ textAt parts 1 ++ ")"
  | .substring comma =>
    "SUBSTRING(" ++ textAt parts 0
      ++ textBehind (if comma then ", " else " FROM ") parts 1
      ++ textBehind (if comma then ", " else " FOR ") parts 2 ++ ")"
  | .overlay =>
    "OVERLAY(" ++ textAt parts 0 ++ " PLACING " ++ textAt parts 1 ++ " FROM " ++ textAt parts 2
      ++ textBehind " FOR " parts 3 ++ ")"
  | .trim side =>
    "TRIM(" ++ (match side with | none => "" | some side => side.render ++ " ")
      ++ (if presentAt parts 1 then textAt parts 1 ++ " FROM " else "") ++ textAt parts 0
      ++ String.join ((parts.drop 2).map (", " ++ ·.2)) ++ ")"
  | .interval units => "INTERVAL " ++ textAt parts 0 ++ units.render
  | .atTimeZone => textAt parts 0 ++ " AT TIME ZONE " ++ textAt parts 1
  | .collate collation => textAt parts 0 ++ " COLLATE " ++ renderPath collation
  | .matchAgainst columns value mode =>
    "MATCH (" ++ renderNames columns ++ ") AGAINST (" ++ value.render
      ++ spaced SearchMode.render mode ++ ")"
  | .array isNamed => (if isNamed then "ARRAY" else "") ++ "[" ++ textsWithCommas parts ++ "]"
  | .composite =>
    "STRUCT" ++ String.join ((parts.drop (parts.length - 1)).map (·.2))
      ++ "(" ++ textsWithCommas parts.dropLast ++ ")"
  | .named name => textAt parts 0 ++ " AS " ++ name.render
  | .dictionary names =>
    let pairs := List.zipWith (fun name part => Ident.render name ++ ": " ++ part.2) names parts
    "\x7b" ++ commaSeparated pairs ++ "\x7d"
  | .mapping => "MAP \x7b" ++ commaSeparated (pairTexts (parts.map (·.2))) ++ "\x7d"
  | .index => textAt parts 0 ++ "[" ++ textAt parts 1 ++ "]"
  | .slice =>
    textAt parts 0 ++ "[" ++ textAt parts 1 ++ ":" ++ textAt parts 2
      ++ textBehind ":" parts 3 ++ "]"
  | .exists negated => negation negated ++ "EXISTS (" ++ textAt parts 0 ++ ")"
  | .subquery => "(" ++ textAt parts 0 ++ ")"
  | .access key => textAt parts 0 ++ "." ++ key.render
  | .call name nulls braces =>
    (if braces then "\x7bfn " else "") ++ renderPath name ++ textAt parts 0 ++ textAt parts 1
      ++ textBehind " " parts 3 ++ spaced NullTreatment.render nulls
      ++ textBehind " OVER " parts 2 ++ (if braces then "\x7d" else "")
  | .groupingSets => "GROUPING SETS (" ++ textsWithCommas parts ++ ")"
  | .cube => "CUBE (" ++ textsWithCommas parts ++ ")"
  | .rollup => "ROLLUP (" ++ textsWithCommas parts ++ ")"

/-! ## Clauses -/

/-- An argument list: the arguments, then the clauses behind them. -/
def argumentsText (unique : Option Bool) (parts : List PrintedPart) : String :=
  let (behind, items) := parts.partition fun p => isArgumentClause p.1
  "(" ++ (match unique with | none => "" | some true => "DISTINCT " | some false => "ALL ")
    ++ textsWithCommas items
    ++ (if items.isEmpty || behind.isEmpty then "" else " ")
    ++ " ".intercalate (behind.map (·.2)) ++ ")"

/-- What happens to the values of a list for which there is no room. -/
def overflowText (withCount : Option Bool) (filler : String) : String :=
  "ON OVERFLOW"
    ++ match withCount with
      | none => " ERROR"
      | some true => " TRUNCATE" ++ filler ++ " WITH COUNT"
      | some false => " TRUNCATE" ++ filler ++ " WITHOUT COUNT"

/-- Pieces of text, with the given texts in the gaps between them. -/
def filled : List (Option String) → List String → String
  | [], _ => ""
  | some s :: pieces, texts => s ++ filled pieces texts
  | none :: pieces, texts => texts.headD "" ++ filled pieces texts.tail

/-- The conversions and fallbacks of a column that is read out of a JSON value. -/
def jsonColumnText (name type : String) (test : Bool) (path : Literal)
    (onEmpty onError : Option JsonFallback) : String :=
  name ++ " " ++ type ++ (if test then " EXISTS" else "") ++ " PATH " ++ path.render
    ++ spaced (fun f => JsonFallback.render f ++ " ON EMPTY") onEmpty
    ++ spaced (fun f => JsonFallback.render f ++ " ON ERROR") onError

/-- What becomes of a row that is there already. -/
def onConflictText (target : Option ConflictTarget) (updates : Bool) (parts : List PrintedPart) :
    String :=
  let (conditions, changes) := parts.partition (·.1 == .clause .where)
  " ON CONFLICT" ++ (target.map ConflictTarget.render).getD ""
    ++ if updates then
        " DO UPDATE SET " ++ textsWithCommas changes ++ String.join (conditions.map (" " ++ ·.2))
      else " DO NOTHING"

/-- The text of a clause of a form, from the texts of its parts. -/
def ClauseForm.write (parts : List PrintedPart) : ClauseForm → String
  | .absent => ""
  | .phrase pieces => filled pieces (parts.map (·.2))
  | .arguments unique => argumentsText unique parts
  | .queryArguments => "(" ++ textAt parts 0 ++ ")"
  | .namedArgument name sign => name.render ++ " " ++ sign.render ++ " " ++ textAt parts 0
  | .settingsArgument settings => renderSettings settings
  | .nullsArgument treatment => treatment.render
  | .boundArgument maximum => (if maximum then "HAVING MAX " else "HAVING MIN ") ++ textAt parts 0
  | .separatorArgument value => "SEPARATOR " ++ value.render
  | .overflowArgument withCount => overflowText withCount (String.join (parts.map (" " ++ ·.2)))
  | .jsonNullsArgument omits => if omits then "ABSENT ON NULL" else "NULL ON NULL"
  | .withinGroup => "WITHIN GROUP (ORDER BY " ++ textsWithCommas parts ++ ")"
  | .window base =>
    "(" ++ " ".intercalate ((base.map Ident.render).toList ++ presentTexts parts) ++ ")"
  | .namedWindow name => name.render
  | .partitionBy => "PARTITION BY " ++ textsWithCommas parts
  | .frame unit =>
    if presentAt parts 1 then
      unit.render ++ " BETWEEN " ++ textAt parts 0 ++ " AND " ++ textAt parts 1
    else unit.render ++ " " ++ textAt parts 0
  | .currentRow => "CURRENT ROW"
  | .bound side => (if parts.isEmpty then "UNBOUNDED" else textAt parts 0) ++ " " ++ side.render
  | .query options =>
    let order := [0, 1, 2, 3, 5, 4].filterMap (parts[·]?)
    " ".intercalate
      (presentTexts order ++ options.settingTexts ++ presentTexts (parts.drop 6)
        ++ options.endTexts)
  | .commonTables recursive =>
    "WITH " ++ (if recursive then "RECURSIVE " else "") ++ textsWithCommas parts
  | .commonTable source =>
    textAt parts 0 ++ " AS (" ++ textAt parts 1 ++ ")"
      ++ (match source with | none => "" | some name => " FROM " ++ name.render)
  | .orderBy =>
    let (behind, items) := parts.partition fun p => isInterpolation p.1
    "ORDER BY " ++ textsWithCommas items ++ String.join (behind.map (" " ++ ·.2))
  | .orderItem ascending nullsFirst =>
    textAt parts 0
      ++ (match ascending with | none => "" | some true => " ASC" | some false => " DESC")
      ++ (match nullsFirst with
          | none => "" | some true => " NULLS FIRST" | some false => " NULLS LAST")
      ++ textBehind " " parts 1
  | .fill =>
    "WITH FILL" ++ textBehind " FROM " parts 0 ++ textBehind " TO " parts 1
      ++ textBehind " STEP " parts 2
  | .interpolate listed =>
    "INTERPOLATE" ++ if listed then " (" ++ textsWithCommas parts ++ ")" else ""
  | .interpolation name => name.render ++ textBehind " AS " parts 0
  | .limit => "LIMIT " ++ textAt parts 0
  | .limitBy => "BY " ++ textsWithCommas parts
  | .offset unit => "OFFSET " ++ textAt parts 0 ++ unit.render
  | .fetch percent withTies =>
    "FETCH FIRST " ++ (if parts.isEmpty then "" else
        textAt parts 0 ++ (if percent then " PERCENT " else " "))
      ++ "ROWS " ++ (if withTies then "WITH TIES" else "ONLY")
  | .parenthesized => "(" ++ textAt parts 0 ++ ")"
  | .setOperation op quantifier =>
    textAt parts 0 ++ " " ++ op.render ++ quantifier.render ++ " " ++ textAt parts 1
  | .values explicitRow =>
    "VALUES " ++ commaSeparated (parts.map fun p => (if explicitRow then "ROW" else "") ++ p.2)
  | .row => "(" ++ textsWithCommas parts ++ ")"
  | .wholeTable schema name =>
    "TABLE " ++ (match schema with | none => "" | some s => s ++ ".") ++ name
  | .select windowFirst into =>
    let ending := parts.drop 12
    let order := if windowFirst then ending else (ending.take 2).reverse ++ ending.drop 2
    " ".intercalate
      ("SELECT" :: presentTexts (parts.take 3) ++ (into.map IntoTable.render).toList
        ++ presentTexts ((parts.drop 3).take 9 ++ order))
  | .distinct => "DISTINCT"
  | .distinctOn => "DISTINCT ON (" ++ textsWithCommas parts ++ ")"
  | .topCount n percent withTies =>
    "TOP " ++ toString n ++ spacedIf percent "PERCENT" ++ spacedIf withTies "WITH TIES"
  | .topExpr percent withTies =>
    "TOP (" ++ textAt parts 0 ++ ")" ++ spacedIf percent "PERCENT" ++ spacedIf withTies "WITH TIES"
  | .projection => textsWithCommas parts
  | .aliased label => textAt parts 0 ++ " AS " ++ label.render
  | .wildcard qualifier options =>
    (if qualifier.isEmpty then "*" else renderPath qualifier ++ ".*")
      ++ options.render
        (if parts.isEmpty then "" else " REPLACE (" ++ textsWithCommas parts ++ ")")
  | .replacement name asWord => textAt parts 0 ++ (if asWord then " AS " else " ") ++ name.render
  | .from => "FROM " ++ textsWithCommas parts
  | .lateralViews => " ".intercalate (parts.map (·.2))
  | .lateralView outer name columns =>
    "LATERAL VIEW " ++ (if outer then "OUTER " else "") ++ textAt parts 0 ++ " " ++ renderPath name
      ++ if columns.isEmpty then "" else " AS " ++ renderNames columns
  | .prewhere => "PREWHERE " ++ textAt parts 0
  | .where => "WHERE " ++ textAt parts 0
  | .groupBy modifiers =>
    "GROUP BY " ++ textsWithCommas parts ++ String.join (modifiers.map GroupingModifier.render)
  | .groupByAll modifiers => "GROUP BY ALL" ++ String.join (modifiers.map GroupingModifier.render)
  | .groupingSet parens => if parens then "(" ++ textsWithCommas parts ++ ")" else textAt parts 0
  | .clusterBy => "CLUSTER BY " ++ textsWithCommas parts
  | .distributeBy => "DISTRIBUTE BY " ++ textsWithCommas parts
  | .sortBy => "SORT BY " ++ textsWithCommas parts
  | .having => "HAVING " ++ textAt parts 0
  | .windows => "WINDOW " ++ textsWithCommas parts
  | .windowDefinition name => name.render ++ " AS " ++ textAt parts 0
  | .qualify => "QUALIFY " ++ textAt parts 0
  | .connectBy =>
    "START WITH " ++ textAt parts 0 ++ " CONNECT BY " ++ textsWithCommas (parts.drop 1)
  | .tableAlias name =>
    name.render ++ if parts.isEmpty then "" else " (" ++ textsWithCommas parts ++ ")"
  | .aliasColumn name => name.render ++ textBehind " " parts 0
  | .joined => String.join (parts.map (·.2))
  | .join kind natural isGlobal =>
    (if isGlobal then " GLOBAL " else " ") ++ (if natural then "NATURAL " else "")
      ++ kind.render ++ " " ++ String.join (parts.map (·.2))
  | .matchCondition => " MATCH_CONDITION (" ++ textAt parts 0 ++ ")"
  | .on => " ON " ++ textAt parts 0
  | .using columns => " USING(" ++ renderNames columns ++ ")"
  | .table name partitions ordinality =>
    renderPath name
      ++ (if partitions.isEmpty then "" else "PARTITION (" ++ renderNames partitions ++ ")")
      ++ textAt parts 1 ++ spacedIf ordinality "WITH ORDINALITY" ++ textBehind " AS " parts 0
      ++ textBehind " " parts 2
  | .hints => "WITH (" ++ textsWithCommas parts ++ ")"
  | .derivedTable lateral =>
    (if lateral then "LATERAL (" else "(") ++ textAt parts 0 ++ ")" ++ textBehind " AS " parts 1
  | .nestedJoin => "(" ++ textAt parts 0 ++ ")" ++ textBehind " AS " parts 1
  | .lateralFunction name =>
    "LATERAL " ++ renderPath name ++ textAt parts 0 ++ textBehind " AS " parts 1
  | .tableOf => "TABLE(" ++ textAt parts 0 ++ ")" ++ textBehind " AS " parts 1
  | .unnest ordinality position =>
    "UNNEST(" ++ textsWithCommas (parts.drop 1) ++ ")" ++ spacedIf ordinality "WITH ORDINALITY"
      ++ textBehind " AS " parts 0
      ++ (match position with
          | none => ""
          | some none => " WITH OFFSET"
          | some (some name) => " WITH OFFSET AS " ++ name.render)
  | .jsonTable path =>
    "JSON_TABLE(" ++ textAt parts 0 ++ ", " ++ path.render ++ " COLUMNS("
      ++ textsWithCommas (parts.dropLast.drop 1) ++ "))"
      ++ textBehind " AS " parts (parts.length - 1)
  | .openJson path =>
    let columns := parts.dropLast.drop 1
    "OPENJSON(" ++ textAt parts 0
      ++ (match path with | none => "" | some path => ", " ++ path.render) ++ ")"
      ++ (if columns.isEmpty then "" else " WITH (" ++ textsWithCommas columns ++ ")")
      ++ textBehind " AS " parts (parts.length - 1)
  | .jsonColumn name test path onEmpty onError =>
    jsonColumnText name.render (textAt parts 0) test path onEmpty onError
  | .jsonOrdinal name => name.render ++ " FOR ORDINALITY"
  | .jsonNested path =>
    "NESTED PATH " ++ path.render ++ " COLUMNS (" ++ textsWithCommas parts ++ ")"
  | .openJsonColumn name path asJson =>
    name.render ++ " " ++ textAt parts 0 ++ spaced (quoted '\'') path ++ spacedIf asJson "AS JSON"
  | .pivot column =>
    textAt parts 0 ++ " PIVOT(" ++ textAt parts 1 ++ " FOR " ++ renderPath column ++ " IN ("
      ++ textAt parts 2 ++ ")"
      ++ (if presentAt parts 3 then " DEFAULT ON NULL (" ++ textAt parts 3 ++ ")" else "")
      ++ ")" ++ textBehind " AS " parts 4
  | .pivotFunctions | .pivotValues => textsWithCommas parts
  | .pivotAny => "ANY" ++ if parts.isEmpty then "" else " ORDER BY " ++ textsWithCommas parts
  | .unpivot value name columns =>
    textAt parts 0 ++ " UNPIVOT(" ++ value.render ++ " FOR " ++ name.render ++ " IN ("
      ++ renderNames columns ++ "))" ++ textBehind " AS " parts 1
  | .matchRecognize rows skip pattern =>
    textAt parts 0 ++ " MATCH_RECOGNIZE("
      ++ " ".intercalate
        (presentTexts ((parts.drop 1).take 3) ++ (rows.map RowsPerMatch.render).toList
          ++ (skip.map SkipTarget.render).toList ++ ["PATTERN (" ++ pattern ++ ")"]
          ++ presentTexts ((parts.drop 4).take 1))
      ++ ")" ++ textBehind " AS " parts 5
  | .measures => "MEASURES " ++ textsWithCommas parts
  | .definitions => "DEFINE " ++ textsWithCommas parts
  | .definition name => name.render ++ " AS " ++ textAt parts 0
  | .insert target =>
    target.render ++ textAt parts 1
      ++ (if presentAt parts 0 then textAt parts 0 else "DEFAULT VALUES")
      ++ renderRowName target.rowName ++ textAt parts 2 ++ textBehind " " parts 3
  | .insertDirectory overwrites isLocal path format =>
    "INSERT" ++ spacedIf overwrites "OVERWRITE" ++ spacedIf isLocal "LOCAL" ++ " DIRECTORY '"
      ++ path ++ "'" ++ spaced (fun name => "STORED AS " ++ name) format ++ " " ++ textAt parts 0
  | .insertPartition => "PARTITION (" ++ textsWithCommas parts ++ ") "
  | .onConflict target updates => onConflictText target updates parts
  | .onDuplicateKey => " ON DUPLICATE KEY UPDATE " ++ textsWithCommas parts
  | .returning => "RETURNING " ++ textsWithCommas parts
  | .update rule =>
    " ".intercalate ("UPDATE" :: (rule.map ConflictRule.render).toList ++ presentTexts parts)
  | .assignments => "SET " ++ textsWithCommas parts
  | .assignment columns => columns.render renderPath ++ " = " ++ textAt parts 0

/-- The text of a node of a form, from the forms and texts of its parts. -/
def Form.write (parts : List PrintedPart) : Form → String
  | .expr e => e.write parts
  | .clause c => c.write parts

namespace SyntaxTree

mutual

/-- The canonical text of the tree. -/
def render : SyntaxTree → String
  | .node form parts => form.write (renderParts parts)

/-- The forms and texts of the trees. -/
def renderParts : List SyntaxTree → List PrintedPart
  | [] => []
  | t :: ts => (t.form, t.render) :: renderParts ts

end

theorem renderParts_eq_map (ts : List SyntaxTree) :
    renderParts ts = ts.map fun t => (t.form, t.render) := by
  induction ts with
  | nil => rfl
  | cons t ts ih => simp [renderParts, ih]

end SyntaxTree

end MetricQuery.Sql
