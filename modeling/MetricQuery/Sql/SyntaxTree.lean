import MetricQuery.Sql.Form.Clause

/-!
# Syntax trees — the form of a query, node by node

A node has a *form* and *parts*. The form carries everything about the node that is not itself a
subtree: names, operators, literals, flags. The parts stand in the order in which a reader of the
query visits them, which is not always the order in which they are written (`TRIM(x FROM a)` visits
`a` first). Since forms hold no trees, every read is one walk over the parts and every change
one map over them, whatever the construct.

A part that may be missing is `SyntaxTree.absent` in its place, so that a form with optional parts
still has them at fixed positions.
-/

namespace MetricQuery.Sql

/-- A syntax tree: a form, and its parts in visiting order. -/
inductive SyntaxTree where
  | node (form : Form) (parts : List SyntaxTree)

namespace SyntaxTree

/-- An expression. -/
abbrev expr (form : ExprForm) (parts : List SyntaxTree) : SyntaxTree :=
  .node (.expr form) parts

/-- A node that is no expression. -/
abbrev clause (form : ClauseForm) (parts : List SyntaxTree) : SyntaxTree :=
  .node (.clause form) parts

/-- What stands in the place of a part that is not there. -/
abbrev absent : SyntaxTree :=
  .clause .absent []

def form : SyntaxTree → Form
  | .node form _ => form

def parts : SyntaxTree → List SyntaxTree
  | .node _ parts => parts

def isExpr (t : SyntaxTree) : Bool :=
  match t.form with
  | .expr _ => true
  | .clause _ => false

def isAbsent (t : SyntaxTree) : Bool :=
  t.form == .clause .absent

/-- The given tree, or `absent`. -/
def ofOption (t : Option SyntaxTree) : SyntaxTree :=
  t.getD absent

/-! ## Walking and changing -/

mutual

/-- All nodes of the tree, each before its parts. -/
def nodes : SyntaxTree → List SyntaxTree
  | .node form parts => .node form parts :: nodesAll parts

/-- All nodes of the trees, in order. -/
def nodesAll : List SyntaxTree → List SyntaxTree
  | [] => []
  | t :: ts => t.nodes ++ nodesAll ts

end

/-- All expressions of the tree, each before its parts. -/
def exprs (t : SyntaxTree) : List SyntaxTree :=
  t.nodes.filter isExpr

mutual

/-- The nodes of the tree that lie in no query nested in it, each before its parts. -/
def outerNodes : SyntaxTree → List SyntaxTree
  | .node (.clause (.query _)) _ => []
  | .node form parts => .node form parts :: outerNodesAll parts

/-- The nodes of the trees that lie in no query nested in them. -/
def outerNodesAll : List SyntaxTree → List SyntaxTree
  | [] => []
  | t :: ts => t.outerNodes ++ outerNodesAll ts

end

mutual

/-- Changes every node, parts before the node they belong to. -/
def mapNodes (f : SyntaxTree → SyntaxTree) : SyntaxTree → SyntaxTree
  | .node form parts => f (.node form (mapNodesAll f parts))

/-- Changes every node of every tree. -/
def mapNodesAll (f : SyntaxTree → SyntaxTree) : List SyntaxTree → List SyntaxTree
  | [] => []
  | t :: ts => t.mapNodes f :: mapNodesAll f ts

end

mutual

/-- Changes every node, parts before the node they belong to and parts in order, while a state is
passed along from node to node. -/
def mapNodesWith {σ : Type} (f : σ → SyntaxTree → SyntaxTree × σ) : σ → SyntaxTree → SyntaxTree × σ
  | s, .node form parts =>
    let (parts', s') := mapNodesAllWith f s parts
    f s' (.node form parts')

/-- Changes every node of every tree, passing the state along. -/
def mapNodesAllWith {σ : Type} (f : σ → SyntaxTree → SyntaxTree × σ) :
    σ → List SyntaxTree → List SyntaxTree × σ
  | s, [] => ([], s)
  | s, t :: ts =>
    let (t', s') := mapNodesWith f s t
    let (ts', s'') := mapNodesAllWith f s' ts
    (t' :: ts', s'')

end

theorem mapNodesAll_eq_map (f : SyntaxTree → SyntaxTree) (ts : List SyntaxTree) :
    mapNodesAll f ts = ts.map (mapNodes f) := by
  induction ts with
  | nil => rfl
  | cons t ts ih => simp [mapNodesAll, ih]

theorem nodesAll_eq_flatMap (ts : List SyntaxTree) : nodesAll ts = ts.flatMap nodes := by
  induction ts with
  | nil => rfl
  | cons t ts ih => simp [nodesAll, ih]

theorem outerNodesAll_eq_flatMap (ts : List SyntaxTree) :
    outerNodesAll ts = ts.flatMap outerNodes := by
  induction ts with
  | nil => rfl
  | cons t ts ih => simp [outerNodesAll, ih]

end SyntaxTree

end MetricQuery.Sql
