import MetricQuery.Sql.Grammar.Definition

/-!
# Alterations — changes to the definition of a thing

A table takes several changes at once, parted by commas; a view, an index and a policy take one.
-/

namespace MetricQuery.Sql.Grammar

/-! ## Columns -/

/-- Where a column stands among the others, or nothing. -/
def columnPosition : Parser Unit :=
  discard (oneBehind? [alone ["FIRST"], (["AFTER"], discard ident)])

/-- At most `rounds` options of a column. -/
def optionsOfColumn (inner : Inner) : (rounds : Nat) → Parser Unit
  | 0 => return ()
  | rounds + 1 => do
    if (← columnOption? inner).isSome then optionsOfColumn inner rounds

/-- The type of a column, its options and its place. -/
def changedColumn (inner : Inner) : Parser Unit := do
  discard (dataType inner)
  optionsOfColumn inner (← remaining)
  columnPosition

/-- A column whose values come from a sequence of numbers. -/
def generatedColumn : Parser Unit := do
  discard (oneBehind? [alone ["ALWAYS"], alone ["BY", "DEFAULT"]])
  keywords ["AS", "IDENTITY"]
  optionallyInParens sequenceOptions

/-- A change to one column. -/
def alteredColumn (inner : Inner) : Parser Unit := do
  optionally ["COLUMN"]
  discard ident
  oneBehind
    [alone ["SET", "NOT", "NULL"], alone ["DROP", "NOT", "NULL"],
     (["SET", "DEFAULT"], discard inner.whole), alone ["DROP", "DEFAULT"],
     (["SET", "DATA", "TYPE"], discard (dataType inner)), (["ADD", "GENERATED"], generatedColumn)]

/-! ## Parts of a table -/

/-- A part of a table behind its keyword. -/
def tablePart (inner : Inner) : Parser Unit := do
  discard (oneOfKeywords ["PART", "PARTITION"])
  discard inner.whole

/-- A part of a table that is frozen or is so no longer, with its name. -/
def frozenPart (inner : Inner) : Parser Unit := do
  tablePart inner
  behind ["WITH"] do
    keyword "NAME"
    discard ident

/-- A projection of a table, for a part of it. -/
def projectionPart : Parser Unit := do
  ifExists
  discard ident
  behind ["IN", "PARTITION"] ident

/-- A projection that is added to a table. -/
def projectionDefinition (inner : Inner) : Parser Unit := do
  ifNotExists
  discard ident
  inParens do
    keyword "SELECT"
    discard (commaList (selectItem inner))
    discard (grouping? inner)
    discard (queryOrder? inner)

/-! ## Tables -/

/-- What is added to a table. -/
def added (inner : Inner) : Parser Unit := do
  if ← tableConstraint? inner then return ()
  else if ← keyword? "PROJECTION" then projectionDefinition inner
  else
    ifNotExists
    let partition := (["PARTITION"], exprsInParens inner)
    if ← oneBehind? [partition] then manyBehind [partition]
    else
      optionally ["COLUMN"]
      ifNotExists
      discard (columnDefinition inner)
      columnPosition

/-- What is dropped from a table. -/
def droppedFromTable (inner : Inner) : Parser Unit := do
  let named : Parser Unit := do
    ifExists
    discard ident
  let cascading : Parser Unit := do
    named
    optionally ["CASCADE"]
  unless ← oneBehind?
      [(["IF", "EXISTS", "PARTITION"], exprsInParens inner),
       (["PARTITION"], exprsInParens inner), (["CONSTRAINT"], cascading),
       alone ["PRIMARY", "KEY"], (["PROJECTION"], named), alone ["CLUSTERING", "KEY"]] do
    optionally ["COLUMN"]
    cascading

/-- A table or a column under a new name. -/
def renamed : Parser Unit := do
  unless ← behind? ["TO"] path do
    optionally ["COLUMN"]
    discard ident
    keyword "TO"
    discard ident

/-- Rules and triggers of a table that are switched off. -/
def disabled : Parser Unit :=
  oneBehind
    [alone ["ROW", "LEVEL", "SECURITY"], (["RULE"], discard ident), (["TRIGGER"], discard ident)]

/-- Rules and triggers of a table that are switched on. -/
def enabled : Parser Unit :=
  oneBehind <|
    alone ["ROW", "LEVEL", "SECURITY"]
      :: [["ALWAYS", "RULE"], ["ALWAYS", "TRIGGER"], ["REPLICA", "RULE"], ["REPLICA", "TRIGGER"],
          ["RULE"], ["TRIGGER"]].map fun ks => (ks, discard ident)

/-- A part of a table under other values. -/
def renamedPart (inner : Inner) : Parser Unit := do
  exprsInParens inner
  keywords ["RENAME", "TO", "PARTITION"]
  exprsInParens inner

/-- A change to a table. -/
def tableChange (inner : Inner) : Parser Unit :=
  oneBehind
    [(["ADD"], added inner), (["RENAME"], renamed), (["DISABLE"], disabled), (["ENABLE"], enabled),
     (["CLEAR", "PROJECTION"], projectionPart), (["MATERIALIZE", "PROJECTION"], projectionPart),
     (["DROP"], droppedFromTable inner), (["PARTITION"], renamedPart inner),
     (["CHANGE"], do
       optionally ["COLUMN"]
       discard ident
       discard ident
       changedColumn inner),
     (["MODIFY"], do
       optionally ["COLUMN"]
       discard ident
       changedColumn inner),
     (["ALTER"], alteredColumn inner),
     (["SWAP"], do
       keyword "WITH"
       discard path),
     (["OWNER", "TO"], owner), (["ATTACH"], tablePart inner), (["DETACH"], tablePart inner),
     (["FREEZE"], frozenPart inner), (["UNFREEZE"], frozenPart inner),
     (["CLUSTER", "BY"], exprsInParens inner), alone ["SUSPEND", "RECLUSTER"],
     alone ["RESUME", "RECLUSTER"],
     (["SET", "TBLPROPERTIES"], discard (inParens (commaList (namedOption inner))))]

/-- A table that is altered, behind its keyword. -/
def alteredTable (inner : Inner) : Parser Unit := do
  ifExists
  optionally ["ONLY"]
  discard path
  onCluster
  discard (commaList (tableChange inner))
  discard (oneBehind? [(["LOCATION"], discard ident), (["SET", "LOCATION"], discard ident)])

/-! ## Other things -/

/-- A view that is altered, behind its keyword. -/
def alteredView (inner : Inner) : Parser Unit := do
  discard path
  discard namesInParens?
  options inner "WITH"
  keyword "AS"
  discard inner.query

/-- An index that is altered, behind its keyword. -/
def alteredIndex : Parser Unit := do
  discard path
  keywords ["RENAME", "TO"]
  discard path

/-- A policy that is altered, behind its keyword. -/
def alteredPolicy (inner : Inner) : Parser Unit := do
  discard ident
  keyword "ON"
  discard path
  if ← keyword? "RENAME" then
    keyword "TO"
    discard ident
  else policyClauses inner

/-- What is altered, behind the keyword. -/
def alter (inner : Inner) : Parser Unit :=
  oneBehind
    [(["VIEW"], alteredView inner), (["TABLE"], alteredTable inner), (["INDEX"], alteredIndex),
     (["POLICY"], alteredPolicy inner)]

end MetricQuery.Sql.Grammar
