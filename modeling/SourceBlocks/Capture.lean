import SourceBlocks.ParseTree.Cursor

/-!
# Captures

The nodes that a query of a parse tree reports.  A query may report a node under several names and
in any order; the captures hold each stretch and kind once, in the order of the file, an outer
node before the nodes it contains.
-/

namespace SourceBlocks

/-- A node that a query reported, with its kind and the name it was reported under. -/
structure Capture where
  node : Cursor
  kind : String
  name : String

namespace Capture

/-- The capture of a node under a name. -/
def ofNode (name : String) (node : Cursor) : Capture := ⟨node, node.kind, name⟩

/-- What makes two captures the same: the stretch of the file and the kind. -/
def key (c : Capture) : Nat × Nat × String :=
  (c.node.info.startByte, c.node.info.endByte, c.node.kind)

/-- The captures whose key is none of the `seen` ones and none of an earlier capture's. -/
def firstReports (seen : List (Nat × Nat × String)) : List Capture → List Capture
  | [] => []
  | c :: later =>
    if seen.contains c.key then firstReports seen later
    else c :: firstReports (c.key :: seen) later

/-- The order of the file: by start, and of two captures with one start the longer first. -/
def precedes (c d : Capture) : Bool :=
  decide (c.node.info.startByte < d.node.info.startByte)
    || (decide (c.node.info.startByte = d.node.info.startByte)
      && decide (d.node.info.endByte ≤ c.node.info.endByte))

/-- The captures of a report, which lists the nodes for each capture name. -/
def ofReport (report : List (String × List Cursor)) : List Capture :=
  (firstReports [] (report.flatMap fun (name, nodes) => nodes.map (ofNode name))).mergeSort
    precedes

/-- The captures of all named nodes of a tree whose kind is listed with a capture name. -/
def ofKinds (kinds : List (String × String)) (tree : ParseTree) : List Capture :=
  let root := Cursor.root tree
  ofReport ((root :: root.descendants).filterMap fun node =>
    if node.info.isNamed then (kinds.lookup node.kind).map fun name => (name, [node]) else none)

end Capture

end SourceBlocks
