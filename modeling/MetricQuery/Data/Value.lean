import MetricQuery.Text.Natural

/-!
# Values — what a data file says, apart from its format

A value is what stands in a configuration or catalog file: a scalar, a list, or an object whose
fields are in the order of the file. Reading a record out of a value is strict where a file is
likely to be wrong: a field that is given twice or has another type makes the record unreadable,
while fields that the record does not know are passed over.
-/

namespace MetricQuery

open MetricQuery.Text

/-- A value of a data file. -/
inductive Value where
  | null
  | boolean (b : Bool)
  | integer (n : Int)
  /-- A scalar that no record asks for: a number with a fraction. -/
  | other
  /-- What has the form of a value and no meaning, such as a text with half a character. It may only
  stand where nobody looks at it. -/
  | illFormed
  /-- A number that nothing can hold. It may not stand anywhere. -/
  | outOfRange
  | text (s : String)
  | list (items : List Value)
  | object (fields : List (String × Value))
  deriving Inhabited

namespace Value

mutual

/-- Whether something holds of the value and of all values in it. -/
def all (p : Value → Bool) : Value → Bool
  | .list items => p (.list items) && allItems p items
  | .object fields => p (.object fields) && allFields p fields
  | v => p v

def allItems (p : Value → Bool) : List Value → Bool
  | [] => true
  | v :: rest => v.all p && allItems p rest

def allFields (p : Value → Bool) : List (String × Value) → Bool
  | [] => true
  | (_, v) :: rest => v.all p && allFields p rest

end

/-- Whether the value may stand where nobody looks at it. -/
def isPassable (v : Value) : Bool :=
  v.all fun
    | .outOfRange => false
    | _ => true

/-- Whether the value has a meaning, and so can be kept before it is looked at. -/
def isWellFormed (v : Value) : Bool :=
  v.all fun
    | .illFormed | .outOfRange => false
    | _ => true

mutual

/-- How many lists and objects lie one in another. -/
def depth : Value → Nat
  | .list items => depthOfItems items + 1
  | .object fields => depthOfFields fields + 1
  | _ => 0

def depthOfItems : List Value → Nat
  | [] => 0
  | v :: rest => max v.depth (depthOfItems rest)

def depthOfFields : List (String × Value) → Nat
  | [] => 0
  | (_, v) :: rest => max v.depth (depthOfFields rest)

end

/-- A text. -/
def text? : Value → Option String
  | .text s => some s
  | _ => none

def boolean? : Value → Option Bool
  | .boolean b => some b
  | _ => none

/-- A natural number that fits a machine word. -/
def word? : Value → Option Nat
  | .integer n => if 0 ≤ n ∧ n.toNat ≤ maxWord then some n.toNat else none
  | _ => none

/-- A list whose items can all be read. -/
def list? {α : Type} (read : Value → Option α) : Value → Option (List α)
  | .list items => items.mapM read
  | _ => none

/-- A value that may be null. -/
def nullable? {α : Type} (read : Value → Option α) : Value → Option (Option α)
  | .null => some none
  | v => (read v).map some

/-- The name of a choice: a text, or an object whose one field has nothing for its value. Where the
value has been kept before it is looked at, an object without fields is nothing too. -/
def choice? (kept : Bool) : Value → Option String
  | .text name => some name
  | .object [(name, .null)] => some name
  | .object [(name, .object [])] => if kept then some name else none
  | _ => none

/-- An object whose values can all be read, as a list of entries. -/
def entries? {α : Type} (read : Value → Option α) : Value → Option (List (String × α))
  | .object fields => fields.mapM fun f => (read f.2).map (f.1, ·)
  | _ => none

/-- A text, or null. -/
def ofText? : Option String → Value
  | none => .null
  | some s => .text s

end Value

/-- The known fields of a record as a file gives them. -/
abbrev Fields := List (String × Value)

namespace Fields

/-- The fields of an object that a record knows, if none of them is given twice and the others may
be passed over. A record may also be written as a list of its fields' values in order, from the
first on; `longer` tells that the list may go on behind them. -/
def ofValue? (known : List String) (longer : Bool) : Value → Option Fields
  | .object fields =>
    let (used, others) := fields.partition fun f => known.contains f.1
    if (used.map (·.1)).Nodup && others.all (·.2.isPassable) then some used else none
  | .list items =>
    if longer || items.length ≤ known.length then some (known.zip items) else none
  | _ => none

/-- The value of a field. -/
def get? (fields : Fields) (name : String) : Option Value :=
  (fields.find? fun f => f.1 = name).map (·.2)

/-- A field that has to be there. -/
def required {α : Type} (fields : Fields) (name : String) (read : Value → Option α) : Option α :=
  match fields.get? name with
  | some v => read v
  | none => none

/-- A field that has a value of its own if it is left out. -/
def withDefault {α : Type} (fields : Fields) (name : String) (default : α)
    (read : Value → Option α) : Option α :=
  match fields.get? name with
  | some v => read v
  | none => some default

end Fields

end MetricQuery
