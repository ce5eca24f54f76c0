import SourceBlocks.Text.Utf8

/-!
# Parse trees

The concrete syntax tree of a source file.  A node has a kind, the stretch of the file that it
covers, and its children in order, anonymous tokens included.
-/

namespace SourceBlocks

/-- The octets from position `start` up to position `stop`, as far as there are any. -/
def Octets.slice (octets : Octets) (start stop : Nat) : Octets :=
  (octets.drop start).take (stop - start)

/-- What a parser hands out as the text of a node. -/
inductive NodeText where
  /-- Nothing. -/
  | absent
  /-- Text, ready to use. -/
  | plain (t : Text)
  /-- The octets of the source file. -/
  | octets (bytes : Octets)

/-- The readable form of a node's text. -/
def NodeText.decoded : NodeText → Text
  | absent => []
  | plain t => t
  | octets bytes => Utf8.decodeLossy bytes

/-- What a parser says about a node itself. -/
structure NodeInfo where
  kind : String
  isNamed : Bool
  startByte : Nat
  endByte : Nat
  startRow : Nat
  endRow : Nat
  /-- The field of the parent that the node stands in. -/
  field : Option String
  text : NodeText
  /-- The message with which the parser refuses to look up a field of the node, if it does. -/
  lookupRefusal : Option Text

/-- A node with its children. -/
inductive ParseTree where
  | node (info : NodeInfo) (children : List ParseTree)

namespace ParseTree

/-- What the parser says about the root. -/
def info : ParseTree → NodeInfo
  | node info _ => info

/-- The children of the root. -/
def children : ParseTree → List ParseTree
  | node _ children => children

mutual

/-- The number of nodes of a tree. -/
def size : ParseTree → Nat
  | node _ children => 1 + sizeAll children

/-- The number of nodes of several trees. -/
def sizeAll : List ParseTree → Nat
  | [] => 0
  | tree :: trees => size tree + sizeAll trees

end

theorem size_eq (t : ParseTree) : t.size = 1 + sizeAll t.children := by
  cases t
  rfl

end ParseTree

end SourceBlocks
