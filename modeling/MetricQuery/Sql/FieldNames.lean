import MetricQuery.Sql.Query
import MetricQuery.Text.Distinct

/-!
# Field names — renaming the columns of a query

A table of field names sends names, letter case aside, to other names. Renaming applies it once to
every column of a tree, however deep, and touches nothing else: qualifiers, quote marks, aliases,
tables and literals stay as they are.
-/

namespace MetricQuery.Sql

open MetricQuery.Text

/-- A table of field names. Each entry keeps the spelling in which its key was given. -/
structure FieldNames where
  entries : List (String × String)
  keys_distinct : entries.Pairwise fun a b => sameName a.1 b.1 = false

namespace FieldNames

/-- The table that renames nothing. -/
def empty : FieldNames :=
  ⟨[], .nil⟩

/-- The table that also sends `name` to `target`, whatever it sent it to before. -/
def insert (m : FieldNames) (name target : String) : FieldNames where
  entries := m.entries.filter (fun e => !sameName e.1 name) ++ [(name, target)]
  keys_distinct := by
    refine List.pairwise_append.2 ⟨m.keys_distinct.filter _, List.pairwise_singleton _ _, ?_⟩
    simp +contextual [List.mem_filter]

/-- The table with these entries, of which the later ones win. -/
def ofList (entries : List (String × String)) : FieldNames :=
  entries.foldl (fun m e => m.insert e.1 e.2) empty

/-- What a name is sent to. -/
def get? (m : FieldNames) (name : String) : Option String :=
  (m.entries.find? fun e => sameName e.1 name).map (·.2)

/-- Whether a name is sent to something. -/
def contains (m : FieldNames) (name : String) : Bool :=
  m.entries.any fun e => sameName e.1 name

/-- The table that sends targets back to keys. -/
def inverse (m : FieldNames) : FieldNames :=
  ofList (m.entries.map fun e => (e.2, e.1))

def size (m : FieldNames) : Nat :=
  m.entries.length

def isEmpty (m : FieldNames) : Bool :=
  m.entries.isEmpty

/-- The name that a name becomes; one that is no key stays. -/
def apply (m : FieldNames) (name : String) : String :=
  (m.get? name).getD name

theorem get?_insert_same (m : FieldNames) {name n : String} (target : String)
    (h : sameName name n = true) : (m.insert name target).get? n = some target := by
  have hnone : (m.entries.filter fun e => !sameName e.1 name).find? (fun e => sameName e.1 n)
      = none := by
    simp_all [sameName]
  simp [get?, insert, List.find?_append, hnone, h]

theorem get?_insert_other (m : FieldNames) {name n : String} (target : String)
    (h : sameName name n = false) : (m.insert name target).get? n = m.get? n := by
  have hfind : (m.entries.filter fun e => !sameName e.1 name).find? (fun e => sameName e.1 n)
      = m.entries.find? fun e => sameName e.1 n := by
    rw [List.find?_filter]
    congr 1
    funext e
    simp only [sameName, beq_eq_false_iff_ne, ne_eq] at h ⊢
    by_cases he : lower e.1 = lower n <;> simp_all
    exact fun hn => h hn.symm
  simp [get?, insert, List.find?_append, hfind, h]

end FieldNames

/-- The column under the name that the table gives it; any other node as it is. -/
def SyntaxTree.renameColumn (m : FieldNames) : SyntaxTree → SyntaxTree
  | .node (.expr (.column qualifier name)) parts =>
    .expr (.column qualifier { name with name := m.apply name.name }) parts
  | t => t

/-- The tree with every column renamed. -/
def SyntaxTree.renameColumns (m : FieldNames) (t : SyntaxTree) : SyntaxTree :=
  t.mapNodes (SyntaxTree.renameColumn m)

/-- The query with every column renamed. -/
def Query.renameColumns (m : FieldNames) (q : Query) : Query :=
  q.mapNodes (SyntaxTree.renameColumn m)

end MetricQuery.Sql
