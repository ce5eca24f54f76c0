import SourceBlocks.ParseTree.Basic

/-!
# Places in a parse tree

A cursor is a node together with its place in the tree: its parent and the siblings before it.
The module holds the steps from a node to its neighbours and the walk through its descendants.
-/

namespace SourceBlocks

/-- A node at its place in a tree.  The earlier siblings stand in the order of their distance. -/
inductive Cursor where
  | root (tree : ParseTree)
  | child (parent : Cursor) (earlier : List ParseTree) (tree : ParseTree)

/-- A parser's refusal to look up a field. -/
structure LookupRefusal where
  message : Text
  deriving DecidableEq, Repr

namespace Cursor

/-- The node and everything below it. -/
def tree : Cursor → ParseTree
  | root tree => tree
  | child _ _ tree => tree

/-- What the parser says about the node. -/
def info (c : Cursor) : NodeInfo := c.tree.info

/-- The kind of the node. -/
def kind (c : Cursor) : String := c.info.kind

/-- The readable text of the node. -/
def text (c : Cursor) : Text := c.info.text.decoded

/-- The parent of the node. -/
def parent? : Cursor → Option Cursor
  | root _ => none
  | child parent _ _ => some parent

/-- The steps that lead from the node up to the root: the number of earlier siblings at each. -/
def address : Cursor → List Nat
  | root _ => []
  | child parent earlier _ => earlier.length :: parent.address

/-- Places for trees that stand side by side below a parent, after some earlier ones. -/
def place (parent : Cursor) : List ParseTree → List ParseTree → List Cursor
  | _, [] => []
  | earlier, tree :: later => child parent earlier tree :: place parent (tree :: earlier) later

/-- The children of the node, in order. -/
def children (c : Cursor) : List Cursor :=
  place c [] c.tree.children

/-- The nearest named tree among siblings listed by distance, at its place. -/
def nearestNamed? (parent : Cursor) : List ParseTree → Option Cursor
  | [] => none
  | tree :: earlier =>
    if tree.info.isNamed then some (child parent earlier tree) else nearestNamed? parent earlier

/-- The nearest named sibling before the node. -/
def previousNamedSibling? : Cursor → Option Cursor
  | root _ => none
  | child parent earlier _ => nearestNamed? parent earlier

/-- The first child that stands in a field, unless the parser refuses to look. -/
def childByField? (c : Cursor) (field : String) : Except LookupRefusal (Option Cursor) :=
  match c.info.lookupRefusal with
  | some message => .error ⟨message⟩
  | none => .ok (c.children.find? fun node => node.info.field = some field)

/-- The number of nodes at and below several places. -/
def totalSize : List Cursor → Nat
  | [] => 0
  | c :: stack => c.tree.size + totalSize stack

theorem totalSize_append (s t : List Cursor) :
    totalSize (s ++ t) = totalSize s + totalSize t := by
  induction s with
  | nil => simp [totalSize]
  | cons c s ih => simp only [List.cons_append, totalSize, ih]; omega

theorem totalSize_place (parent : Cursor) (earlier trees : List ParseTree) :
    totalSize (place parent earlier trees) = ParseTree.sizeAll trees := by
  induction trees generalizing earlier with
  | nil => simp [place, totalSize, ParseTree.sizeAll]
  | cons tree trees ih => simp [place, totalSize, ParseTree.sizeAll, ih, Cursor.tree]

theorem totalSize_children (c : Cursor) : totalSize c.children + 1 = c.tree.size := by
  rw [children, totalSize_place, ParseTree.size_eq]
  omega

/-- Visits the places on a stack: the topmost first, then its children in its stead. -/
def visit : List Cursor → List Cursor
  | [] => []
  | c :: stack => c :: visit (c.children ++ stack)
  termination_by stack => totalSize stack
  decreasing_by
    have := totalSize_children c
    simp only [totalSize_append, totalSize]
    omega

/-- The descendants of the node, each before its own descendants, without the node. -/
def descendants (c : Cursor) : List Cursor :=
  visit c.children

/-- The first descendant of a kind. -/
def firstDescendant? (c : Cursor) (kind : String) : Option Cursor :=
  c.descendants.find? fun node => node.kind = kind

end Cursor

end SourceBlocks
