import SourceBlocks.ParseTree.Cursor
import SourceBlocks.Proofs.Utf8

/-!
# Trees that agree with a text

A tree agrees with a text when each node covers whole characters of the text, says so in octets and
rows, has their octets as its text, and lies inside its parent.  Every node of such a tree is then
a stretch of characters of the text, on the rows that it claims.
-/

namespace SourceBlocks

/-- What a node says about itself is so in the text. -/
structure NodeInfo.Agrees (content : Text) (info : NodeInfo) : Prop where
  start_le_end : info.startByte ≤ info.endByte
  end_le_size : info.endByte ≤ Utf8.size content
  start_boundary : Utf8.IsBoundary content info.startByte
  end_boundary : Utf8.IsBoundary content info.endByte
  text_eq : info.text = .octets ((Utf8.encode content).slice info.startByte info.endByte)
  startRow_eq : info.startRow = ((Utf8.encode content).take info.startByte).count 0x0A
  endRow_eq : info.endRow = ((Utf8.encode content).take info.endByte).count 0x0A

/-- Every node of a tree agrees with the text and lies inside its parent. -/
inductive ParseTree.Agrees (content : Text) : ParseTree → Prop where
  | node {info : NodeInfo} {children : List ParseTree} (own : info.Agrees content)
      (below : ∀ child ∈ children, child.Agrees content)
      (inside : ∀ child ∈ children, info.startByte ≤ child.info.startByte ∧
        child.info.endByte ≤ info.endByte) : Agrees content (.node info children)

/-- A place in a tree: its root, or a child of a place in it. -/
inductive Cursor.Within (tree : ParseTree) : Cursor → Prop where
  | root : Within tree (.root tree)
  | child {parent c : Cursor} (hparent : Within tree parent) (hchild : c ∈ parent.children) :
      Within tree c

variable {content : Text} {tree child : ParseTree} {info : NodeInfo} {c parent : Cursor}

namespace ParseTree.Agrees

theorem leaf (h : info.Agrees content) : (ParseTree.node info []).Agrees content :=
  .node h (fun _ hchild => absurd hchild List.not_mem_nil)
    (fun _ hchild => absurd hchild List.not_mem_nil)

theorem of_one_child (h : info.Agrees content) (hchild : child.Agrees content)
    (hinside : info.startByte ≤ child.info.startByte ∧ child.info.endByte ≤ info.endByte) :
    (ParseTree.node info [child]).Agrees content := by
  refine .node h ?_ ?_
  · intro other hother
    exact List.mem_singleton.mp hother ▸ hchild
  · intro other hother
    exact List.mem_singleton.mp hother ▸ hinside

theorem info_agrees (h : tree.Agrees content) : tree.info.Agrees content := by
  cases h with
  | node own below inside => exact own

theorem children_agree (h : tree.Agrees content) : ∀ child ∈ tree.children, child.Agrees content := by
  cases h with
  | node own below inside => exact below

theorem children_inside (h : tree.Agrees content) : ∀ child ∈ tree.children,
    tree.info.startByte ≤ child.info.startByte ∧ child.info.endByte ≤ tree.info.endByte := by
  cases h with
  | node own below inside => exact inside

end ParseTree.Agrees

namespace Cursor

theorem tree_mem_of_mem_place {earlier trees : List ParseTree} (h : c ∈ place parent earlier trees) :
    c.tree ∈ trees := by
  induction trees generalizing earlier with
  | nil => exact absurd h List.not_mem_nil
  | cons tree later ih =>
    rcases List.mem_cons.mp h with rfl | h
    · exact List.mem_cons_self
    · exact List.mem_cons_of_mem _ (ih h)

theorem tree_mem_children (h : c ∈ parent.children) : c.tree ∈ parent.tree.children :=
  tree_mem_of_mem_place h

theorem Within.agrees (h : Within tree c) (htree : tree.Agrees content) : c.tree.Agrees content := by
  induction h with
  | root => exact htree
  | child _ hchild ih => exact ih.children_agree _ (tree_mem_children hchild)

/-- A node of a tree that agrees with a text is a stretch of the text, on the rows it claims. -/
theorem exists_split (h : c.info.Agrees content) :
    ∃ before after, content = before ++ c.text ++ after ∧
      Utf8.size before = c.info.startByte ∧ Utf8.size (before ++ c.text) = c.info.endByte ∧
      c.info.startRow = before.count '\n' ∧
      c.info.endRow = before.count '\n' + c.text.count '\n' := by
  obtain ⟨before, inside, after, hsplit, hstart, hstop⟩ :=
    Utf8.exists_split_of_boundaries h.start_le_end h.start_boundary h.end_boundary
  have htext : c.text = inside := by
    rw [text, h.text_eq, NodeText.decoded, ← hstart, ← hstop, hsplit, Utf8.slice_encode,
      Utf8.decodeLossy_encode]
  have hrow : ∀ front back, content = front ++ back →
      ((Utf8.encode content).take (Utf8.size front)).count 0x0A = front.count '\n' := by
    rintro front back rfl
    rw [Utf8.encode_append, Utf8.size, List.take_left, Utf8.count_encode]
  refine ⟨before, after, by rw [htext, hsplit], hstart, by rw [htext, hstop], ?_, ?_⟩
  · rw [h.startRow_eq, ← hstart, hrow before (inside ++ after) (by rw [hsplit, List.append_assoc])]
  · rw [h.endRow_eq, ← hstop, hrow (before ++ inside) after hsplit, List.count_append, htext]

end Cursor

end SourceBlocks
