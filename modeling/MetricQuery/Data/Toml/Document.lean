import MetricQuery.Data.Toml.Scalar

/-!
# TOML documents — the tables of a document and how they may grow

A document is built up line by line. A header opens a table, which later lines fill; dotted keys
make tables on the way. A table may be opened once only, a key may be given once only, and what a
header has opened cannot be extended by dotted keys. The next item of a list of tables is opened by
a header of its own.
-/

namespace MetricQuery.Toml

/-- How a table has come into being. -/
inductive TableKind where
  /-- By a header. -/
  | header
  /-- On the way to a table that a header opened. -/
  | implied
  /-- By a dotted key. -/
  | dotted
  deriving DecidableEq

/-- What stands under a key of a document. -/
inductive Node where
  | value (v : Value)
  | table (kind : TableKind) (fields : List (String × Node))
  /-- A list of tables: the closed ones, and the one that is being filled. -/
  | tables (closed : List (List (String × Node))) (last : List (String × Node))

/-- The keys of a table with what stands under them. -/
abbrev Table := List (String × Node)

mutual

/-- What stands under a key, as a value. -/
def Node.toValue : Node → Value
  | .value v => v
  | .table _ fields => .object (tableFields fields)
  | .tables closed last => .list (tableValues closed ++ [.object (tableFields last)])

/-- The values of tables. -/
def tableValues : List (List (String × Node)) → List Value
  | [] => []
  | t :: rest => .object (tableFields t) :: tableValues rest

/-- The fields of a table as values. -/
def tableFields : List (String × Node) → List (String × Value)
  | [] => []
  | (key, node) :: rest => (key, node.toValue) :: tableFields rest

end

namespace Table

/-- What stands under a key. -/
def get? (t : Table) (key : String) : Option Node :=
  (t.find? fun e => e.1 = key).map (·.2)

/-- The table with what stands under a key changed. -/
def set (t : Table) (key : String) (node : Node) : Table :=
  t.map fun e => if e.1 = key then (key, node) else e

/-- The table with a new key. -/
def add (t : Table) (key : String) (node : Node) : Table :=
  t ++ [(key, node)]

/-- Applies a change to what is being filled under a key. -/
def descend? (t : Table) (key : String) (change? : Table → Option Table) : Option Table :=
  match t.get? key with
  | none => (change? []).map fun sub => t.add key (.table .implied sub)
  | some (.table kind sub) => (change? sub).map fun sub => t.set key (.table kind sub)
  | some (.tables closed last) => (change? last).map fun last => t.set key (.tables closed last)
  | some (.value _) => none

/-- Applies a change to the table at a path, whose tables come into being on the way. -/
def changeAt? (change? : Table → Option Table) : List String → Table → Option Table
  | [], t => change? t
  | key :: rest, t => t.descend? key (changeAt? change? rest)

/-- Opens the table of a header. -/
def openTable? (key : String) (t : Table) : Option Table :=
  match t.get? key with
  | none => some (t.add key (.table .header []))
  | some (.table .implied sub) => some (t.set key (.table .header sub))
  | _ => none

/-- Opens the next table of a list of tables. -/
def openItem? (key : String) (t : Table) : Option Table :=
  match t.get? key with
  | none => some (t.add key (.tables [] []))
  | some (.tables closed last) => some (t.set key (.tables (closed ++ [last]) []))
  | _ => none

/-- Gives a value to a key, which may be dotted. -/
def assign? (v : Value) : List String → Table → Option Table
  | [], _ => none
  | [key], t =>
    match t.get? key with
    | none => some (t.add key (.value v))
    | some _ => none
  | key :: rest, t =>
    match t.get? key with
    | none => (assign? v rest []).map fun sub => t.add key (.table .dotted sub)
    | some (.table kind sub) =>
      if kind = .header then none
      else (assign? v rest sub).map fun sub => t.set key (.table kind sub)
    | some _ => none

end Table

/-- A document that is being read: its tables, and the path of the one that is being filled. -/
structure Document where
  root : Table
  current : List String

namespace Document

def empty : Document :=
  ⟨[], []⟩

/-- The document with a table opened by a change at the end of its path. -/
def openAt? (d : Document) (path : List String) (change? : String → Table → Option Table) :
    Option Document :=
  match path.reverse with
  | [] => none
  | key :: above =>
    (Table.changeAt? (change? key) above.reverse d.root).map fun root => ⟨root, path⟩

/-- The document with a value in the table that is being filled. -/
def assign? (d : Document) (key : List String) (v : Value) : Option Document :=
  (Table.changeAt? (Table.assign? v key) d.current d.root).map fun root => { d with root }

/-- The document as a value. -/
def toValue (d : Document) : Value :=
  .object (tableFields d.root)

end Document

end MetricQuery.Toml
