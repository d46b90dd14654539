import MetricQuery.Sql.SyntaxTree

/-!
# Phrases — texts with trees in them

Of some constructs inside a query, such as the type of a column, nothing matters but the canonical
text and the expressions that stand in it. A phrase is such a text: pieces of text and trees in
turn. As a node of a tree it has the trees for its parts, so that they are visited and changed like
all others.
-/

namespace MetricQuery.Sql

/-- A piece of a phrase: some text, or a tree. -/
inductive Piece where
  | text (s : String)
  | tree (t : SyntaxTree)

namespace Piece

def text? : Piece → Option String
  | text s => some s
  | tree _ => none

def tree? : Piece → Option SyntaxTree
  | text _ => none
  | tree t => some t

end Piece

/-- A text with trees in it. -/
structure Phrase where
  pieces : List Piece

namespace Phrase

/-- Nothing at all. -/
def empty : Phrase :=
  ⟨[]⟩

/-- A text without trees. -/
def ofText (s : String) : Phrase :=
  ⟨[.text s]⟩

/-- A tree alone. -/
def ofTree (t : SyntaxTree) : Phrase :=
  ⟨[.tree t]⟩

instance : Coe String Phrase := ⟨ofText⟩

instance : Append Phrase := ⟨fun a b => ⟨a.pieces ++ b.pieces⟩⟩

/-- Phrases one behind the other, with a text between them. -/
def intercalate (separator : String) : List Phrase → Phrase
  | [] => empty
  | [p] => p
  | p :: ps => p ++ ofText separator ++ intercalate separator ps

/-- Phrases one behind the other. -/
def join (ps : List Phrase) : Phrase :=
  intercalate "" ps

/-- Phrases parted by commas. -/
def commaSeparated (ps : List Phrase) : Phrase :=
  intercalate ", " ps

/-- A phrase in parentheses. -/
def parenthesized (p : Phrase) : Phrase :=
  ofText "(" ++ p ++ ofText ")"

/-- The phrase as a node of a tree. -/
def toTree (p : Phrase) : SyntaxTree :=
  .clause (.phrase (p.pieces.map Piece.text?)) (p.pieces.filterMap Piece.tree?)

end Phrase

end MetricQuery.Sql
