import SourceBlocks.Description
import SourceBlocks.Proofs.ParseTree.Order

/-!
# Documentation stands next to its node

The comment that documents a node ends before the node starts, and no other named node lies between
the two but those that hold the node itself.  The comment is found by looking at siblings only; in
document order whatever comes before the node either lies at or before the comment, or is a token
between the two.
-/

namespace SourceBlocks.Cursor

variable {tree : ParseTree} {comment sibling c m q parent : Cursor}

theorem mem_of_pair_sublist {α : Type} {a b : α} {before after : List α}
    (h : [a, b].Sublist (before ++ b :: after)) (hb : b ∉ after) : a ∈ before := by
  obtain ⟨front, back, hsplit, hfront, hback⟩ := List.sublist_append_iff.mp h
  cases front with
  | nil =>
    rw [List.nil_append] at hsplit
    subst hsplit
    cases hback with
    | cons _ hafter => exact absurd (hafter.subset (by simp)) hb
    | cons_cons _ hafter => exact absurd (hafter.subset List.mem_cons_self) hb
  | cons x front =>
    obtain ⟨rfl, -⟩ := List.cons.inj hsplit
    exact hfront.subset List.mem_cons_self

/-- An earlier child stands among the siblings before a child. -/
theorem mem_before_of_sublist {before after : List Cursor}
    (hchildren : parent.children = before ++ m :: after)
    (h : [q, m].Sublist parent.children) : q ∈ before := by
  have hnodup := nodup_children parent
  rw [hchildren] at h hnodup
  refine mem_of_pair_sublist h ?_
  exact (List.nodup_cons.mp (List.nodup_append.mp hnodup).2.1).1

/-- What comes before a node lies at or below one of the siblings before it, or comes before its
parent. -/
theorem Precedes.before_or_parent {before after : List Cursor} (h : Precedes tree q m)
    (hchildren : parent.children = before ++ m :: after) :
    (∃ a ∈ before, AtOrBelow a q) ∨ Precedes tree q parent := by
  obtain ⟨other, a, b, hother, hsublist, ha, hb⟩ := h
  have hm : m ∈ parent.children := mem_children_of_split hchildren
  rcases hb.eq_or_parent hm with rfl | hb
  · obtain rfl : other = parent := eq_of_mem_children (hsublist.subset (by simp)) hm
    exact Or.inl ⟨a, mem_before_of_sublist hchildren hsublist, ha⟩
  · exact Or.inr ⟨other, a, b, hother, hsublist, ha, hb⟩

/-- The previous named sibling of a node ends before the node starts. -/
theorem IsPreviousNamed.end_le_start (h : IsPreviousNamed comment m) (htree : tree.Ordered)
    (hm : Within tree m) :
    Within tree comment ∧ comment.info.endByte ≤ m.info.startByte := by
  obtain ⟨parent, before, between, after, hchildren, -, -⟩ := h
  have hparent : Within tree parent := hm.of_mem_children (mem_children_of_split hchildren)
  have hsublist : [comment, m].Sublist parent.children := by
    rw [hchildren]
    exact pair_sublist List.mem_append_cons_self List.mem_cons_self
  exact ⟨hparent.child (hsublist.subset List.mem_cons_self),
    end_le_start_of_sublist (hparent.ordered htree) hsublist⟩

/-- A named node that starts after the previous named sibling of a node, and comes before the node,
covers nothing. -/
theorem IsPreviousNamed.eq_of_precedes (h : IsPreviousNamed comment m) (htree : tree.Ordered)
    (hm : Within tree m) (hq : Within tree q) (hnamed : q.info.isNamed = true)
    (hstart : comment.info.endByte ≤ q.info.startByte) (hprecedes : Precedes tree q m) :
    q.info.startByte = q.info.endByte := by
  have hcomment := ((h.end_le_start htree hm).1.ordered htree).start_le_end
  apply Nat.le_antisymm (hq.ordered htree).start_le_end
  obtain ⟨parent, before, between, after, hchildren, -, htokens⟩ := h
  have hmem : ∀ a ∈ before ++ comment :: between, a ∈ parent.children := by
    intro a ha
    rw [hchildren]
    exact List.mem_append_left _ ha
  have hparent : parent.tree.Ordered :=
    (hm.of_mem_children (mem_children_of_split hchildren)).ordered htree
  rcases hprecedes.before_or_parent hchildren with ⟨a, ha, hbelow⟩ | hearlier
  · have hordered : a.tree.Ordered := ordered_of_mem_children hparent (hmem a ha)
    have hinside := (hbelow.inside hordered).2
    rcases List.mem_append.mp ha with hbefore | hfrom
    · have hsublist : [a, comment].Sublist parent.children := by
        rw [hchildren, List.append_assoc]
        exact pair_sublist hbefore List.mem_cons_self
      have hle := end_le_start_of_sublist hparent hsublist
      exact Nat.le_trans hinside (Nat.le_trans hle (Nat.le_trans hcomment hstart))
    · rcases List.mem_cons.mp hfrom with rfl | htoken
      · exact Nat.le_trans hinside hstart
      · have hanonymous := hbelow.token hordered (htokens a htoken)
        exact absurd (hnamed.symm.trans hanonymous) Bool.noConfusion
  · -- What comes before the parent comes before all of its children, the comment among them.
    have hchild : comment ∈ parent.children := hmem comment List.mem_append_cons_self
    have hle := (hearlier.below_right (AtOrBelow.self.child hchild)).end_le_start htree
    exact Nat.le_trans hle (Nat.le_trans hcomment hstart)

/-! ## The comment just before a node -/

/-- A comment ends before a node starts, and the named nodes that lie between the two hold the node
or cover nothing. -/
structure IsJustBefore (tree : ParseTree) (comment c : Cursor) : Prop where
  within : Within tree comment
  named : comment.info.isNamed = true
  kind_mem : comment.kind ∈ Kind.comments
  end_le_start : comment.info.endByte ≤ c.info.startByte
  holds_or_empty : ∀ q, Within tree q → q.info.isNamed = true →
    comment.info.endByte ≤ q.info.startByte → q.info.endByte ≤ c.info.startByte →
      AtOrBelow q c ∨ q.info.startByte = q.info.endByte

/-- Only what comes before a node has to be looked at: anything else that lies before it holds it or
covers nothing. -/
theorem holds_or_empty_of_precedes (htree : tree.Ordered) (hc : Within tree c)
    (hq : Within tree q) (hend : q.info.endByte ≤ c.info.startByte)
    (hprecedes : Precedes tree q c → q.info.startByte = q.info.endByte) :
    AtOrBelow q c ∨ q.info.startByte = q.info.endByte := by
  have hqRange := (hq.ordered htree).start_le_end
  have hcRange := (hc.ordered htree).start_le_end
  rcases hq.trichotomy hc with h | h | h | h
  · exact Or.inl h
  · have hinside := (h.inside (hc.ordered htree)).1
    exact Or.inr (Nat.le_antisymm hqRange (Nat.le_trans hend hinside))
  · exact Or.inr (hprecedes h)
  · have hle := h.end_le_start htree
    exact Or.inr (Nat.le_antisymm hqRange (Nat.le_trans hend (Nat.le_trans hcRange hle)))

theorem commentText?_eq_some_iff {text : Text} :
    comment.commentText? = some text ↔ comment.kind ∈ Kind.comments ∧ comment.text = text := by
  rw [commentText?]
  split
  next h => simp [List.contains_iff_mem.mp h]
  next h => simpa using fun hmem => absurd (List.contains_iff_mem.mpr hmem) h

theorem isJustBefore_of_sibling (htree : tree.Ordered) (hc : Within tree c)
    (h : IsPreviousNamed comment c) (hkind : comment.kind ∈ Kind.comments) :
    IsJustBefore tree comment c := by
  obtain ⟨hwithin, hle⟩ := h.end_le_start htree hc
  refine ⟨hwithin, h.named, hkind, hle, ?_⟩
  intro q hq hnamed hstart hend
  exact holds_or_empty_of_precedes htree hc hq hend (h.eq_of_precedes htree hc hq hnamed hstart)

/-- A node with nothing but tokens before it in its parent has the comment before its parent just
before it. -/
theorem isJustBefore_of_parent {before after : List Cursor} (htree : tree.Ordered)
    (hparent : Within tree parent) (hchildren : parent.children = before ++ c :: after)
    (htokens : ∀ token ∈ before, token.info.isNamed = false)
    (h : IsPreviousNamed comment parent) (hkind : comment.kind ∈ Kind.comments) :
    IsJustBefore tree comment c := by
  have hchild : c ∈ parent.children := mem_children_of_split hchildren
  have hordered := hparent.ordered htree
  obtain ⟨hwithin, hle⟩ := h.end_le_start htree hparent
  have hinside := (hordered.children_inside _ (tree_mem_children hchild)).1
  refine ⟨hwithin, h.named, hkind, Nat.le_trans hle hinside, ?_⟩
  intro q hq hnamed hstart hend
  apply holds_or_empty_of_precedes htree (hparent.child hchild) hq hend
  intro hprecedes
  rcases hprecedes.before_or_parent hchildren with ⟨a, ha, hbelow⟩ | hearlier
  · have hmem : a ∈ parent.children := by
      rw [hchildren]
      exact List.mem_append_left _ ha
    have hanonymous := hbelow.token (ordered_of_mem_children hordered hmem) (htokens a ha)
    exact absurd (hnamed.symm.trans hanonymous) Bool.noConfusion
  · exact h.eq_of_precedes htree hparent hq hnamed hstart hearlier

/-- The documentation of a node is the text of a comment just before it.  A node whose previous
named sibling is no comment has none, whatever precedes its parent. -/
theorem documentation_just_before (tree : ParseTree) (c : Cursor) (htree : tree.Ordered)
    (hc : Within tree c) :
    (∀ text, c.documentation? = some text →
        ∃ comment, IsJustBefore tree comment c ∧ comment.text = text) ∧
      (∀ sibling, IsPreviousNamed sibling c → sibling.kind ∉ Kind.comments →
        c.documentation? = none) ∧
      ∀ sibling, IsPreviousNamed sibling c → sibling.kind ∈ Kind.comments →
        c.documentation? = some sibling.text := by
  refine ⟨?_, ?_, ?_⟩
  · intro text htext
    rw [documentation?] at htext
    split at htext
    next comment hcomment =>
      obtain ⟨hkind, htext⟩ := commentText?_eq_some_iff.mp htext
      have hprevious := isPreviousNamed_of_eq_some hc hcomment
      exact ⟨comment, isJustBefore_of_sibling htree hc hprevious hkind, htext⟩
    next hnone =>
      cases hc with
      | root => cases htext
      | @child parent _ hparent hchild =>
        rw [parent?_of_mem_children hchild, Option.bind_some] at htext
        obtain ⟨comment, hcomment, htext⟩ := Option.bind_eq_some_iff.mp htext
        obtain ⟨hkind, htext⟩ := commentText?_eq_some_iff.mp htext
        have hprevious := isPreviousNamed_of_eq_some hparent hcomment
        obtain ⟨before, after, hchildren⟩ := List.append_of_mem hchild
        have htokens := tokens_of_eq_none hchildren hnone
        exact ⟨comment, isJustBefore_of_parent htree hparent hchildren htokens hprevious hkind,
          htext⟩
  · intro sibling hsibling hkind
    rw [documentation?, hsibling.previousNamedSibling?_eq]
    by_contra hsome
    obtain ⟨text, htext⟩ := Option.ne_none_iff_exists'.mp hsome
    exact hkind (commentText?_eq_some_iff.mp htext).1
  · intro sibling hsibling hkind
    rw [documentation?, hsibling.previousNamedSibling?_eq]
    exact commentText?_eq_some_iff.mpr ⟨hkind, rfl⟩

/-- A comment on the first line. -/
def remark : ParseTree :=
  .node ⟨"comment", true, 0, 5, 0, 0, none, .octets (Utf8.encode "// é".toList), none⟩ []

/-- The word before the function. -/
def exportWord : ParseTree :=
  .node ⟨"export", false, 6, 12, 1, 1, none, .octets (Utf8.encode "export".toList), none⟩ []

/-- The function on the second line. -/
def exportedFunction : ParseTree :=
  .node ⟨"function_declaration", true, 13, 27, 1, 1, some "declaration", .absent, none⟩ []

/-- The statement on the second line. -/
def exportStatement : ParseTree :=
  .node ⟨"export_statement", true, 6, 27, 1, 1, none, .absent, none⟩ [exportWord, exportedFunction]

/-- A file with a comment before a statement that exports a function. -/
def remarkedTree : ParseTree :=
  .node ⟨"program", true, 0, 27, 0, 1, none, .absent, none⟩ [remark, exportStatement]

/-- The statement at its place. -/
def exportNode : Cursor := .child (.root remarkedTree) [remark] exportStatement

/-- The function at its place. -/
def exportedNode : Cursor := .child exportNode [exportWord] exportedFunction

theorem remarkedTree_ordered : remarkedTree.Ordered := by
  have hstatement : exportStatement.Ordered := by
    refine .node (by decide) ?_ ?_ ?_ ?_
    · simp [exportWord, exportedFunction, ParseTree.info]
    · simp [exportWord, exportedFunction, ParseTree.info]
    · simp
    · intro child hchild
      rcases List.mem_pair.mp hchild with rfl | rfl
      · exact .leaf (by decide)
      · exact .leaf (by decide)
  refine .node (by decide) ?_ ?_ ?_ ?_
  · simp [remark, exportStatement, ParseTree.info]
  · simp [remark, exportStatement, ParseTree.info]
  · simp
  · intro child hchild
    rcases List.mem_pair.mp hchild with rfl | rfl
    · exact .leaf (by decide)
    · exact hstatement

theorem documentation_just_before_exported :
    remarkedTree.Ordered ∧ Within remarkedTree exportedNode ∧
      exportedNode.documentation? = some "// é".toList ∧
      ∃ comment, IsJustBefore remarkedTree comment exportedNode ∧
        comment.text = "// é".toList := by
  have hwithin : Within remarkedTree exportedNode := by
    have hstatement : exportNode ∈ (Cursor.root remarkedTree).children := by
      exact List.mem_cons_of_mem _ List.mem_cons_self
    exact (Within.root.child hstatement).child (List.mem_cons_of_mem _ List.mem_cons_self)
  have htext : exportedNode.documentation? = some "// é".toList :=
    congrArg some (Utf8.decodeLossy_encode "// é".toList)
  exact ⟨remarkedTree_ordered, hwithin, htext,
    (documentation_just_before remarkedTree exportedNode remarkedTree_ordered hwithin).1 _ htext⟩

end SourceBlocks.Cursor
