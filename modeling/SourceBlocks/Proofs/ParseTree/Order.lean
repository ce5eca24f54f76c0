import Mathlib.Data.List.Induction
import Mathlib.Data.List.Nodup
import SourceBlocks.Proofs.ParseTree.Agreement

/-!
# Document order

Two nodes of a tree are one at or below the other, or one of them comes first: they part below
some node, at an earlier and a later child.  Where children are disjoint and lie inside their
parents, what comes first ends before the other starts.
-/

namespace SourceBlocks

/-- A tree in document order: each node lies inside its parent and after the siblings before it,
and a token holds no named nodes. -/
inductive ParseTree.Ordered : ParseTree → Prop where
  | node {info : NodeInfo} {children : List ParseTree} (start_le_end : info.startByte ≤ info.endByte)
      (inside : ∀ child ∈ children, info.startByte ≤ child.info.startByte ∧
        child.info.endByte ≤ info.endByte)
      (disjoint : children.Pairwise fun earlier later =>
        earlier.info.endByte ≤ later.info.startByte)
      (tokens : info.isNamed = false → ∀ child ∈ children, child.info.isNamed = false)
      (below : ∀ child ∈ children, child.Ordered) : Ordered (.node info children)

namespace Cursor

/-- A place is `top` or lies below it. -/
inductive AtOrBelow (top : Cursor) : Cursor → Prop where
  | self : AtOrBelow top top
  | child {parent c : Cursor} (h : AtOrBelow top parent) (hchild : c ∈ parent.children) :
      AtOrBelow top c

/-- Two places in a tree part below some node, the first at an earlier child than the second. -/
def Precedes (tree : ParseTree) (x y : Cursor) : Prop :=
  ∃ parent a b, Within tree parent ∧ [a, b].Sublist parent.children ∧
    AtOrBelow a x ∧ AtOrBelow b y

variable {tree : ParseTree} {parent other c d top x y : Cursor} {earlier trees : List ParseTree}

/-! ## Children and their siblings -/

theorem place_append (parent : Cursor) (earlier xs ys : List ParseTree) :
    place parent earlier (xs ++ ys) =
      place parent earlier xs ++ place parent (xs.reverse ++ earlier) ys := by
  induction xs generalizing earlier with
  | nil => rfl
  | cons tree xs ih =>
    rw [List.cons_append, place, place, ih, List.cons_append, List.reverse_cons,
      List.append_assoc, List.singleton_append]

theorem map_tree_place (parent : Cursor) (earlier trees : List ParseTree) :
    (place parent earlier trees).map Cursor.tree = trees := by
  induction trees generalizing earlier with
  | nil => rfl
  | cons tree trees ih => rw [place, List.map_cons, ih, Cursor.tree]

theorem exists_of_mem_place (h : c ∈ place parent earlier trees) :
    ∃ passed, c = child parent (passed ++ earlier) c.tree := by
  induction trees generalizing earlier with
  | nil => exact absurd h List.not_mem_nil
  | cons tree trees ih =>
    rcases List.mem_cons.mp h with rfl | h
    · exact ⟨[], rfl⟩
    · obtain ⟨passed, hc⟩ := ih h
      refine ⟨passed ++ [tree], ?_⟩
      rw [List.append_assoc, List.singleton_append]
      exact hc

theorem parent?_of_mem_children (h : c ∈ parent.children) : c.parent? = some parent := by
  obtain ⟨passed, hc⟩ := exists_of_mem_place h
  rw [hc, parent?]

/-- A place is a child of one place only. -/
theorem eq_of_mem_children (h : c ∈ parent.children) (hother : c ∈ other.children) :
    parent = other :=
  Option.some.inj ((parent?_of_mem_children h).symm.trans (parent?_of_mem_children hother))

theorem mem_children_of_split {before after : List Cursor}
    (h : parent.children = before ++ c :: after) : c ∈ parent.children := by
  rw [h]
  exact List.mem_append_cons_self

theorem Within.of_mem_children (h : Within tree c) (hchild : c ∈ parent.children) :
    Within tree parent := by
  cases h with
  | root => cases parent?_of_mem_children hchild
  | child hparent hmem => exact eq_of_mem_children hmem hchild ▸ hparent

theorem nodup_place (parent : Cursor) (earlier trees : List ParseTree) :
    (place parent earlier trees).Nodup := by
  induction trees generalizing earlier with
  | nil => exact List.nodup_nil
  | cons tree trees ih =>
    rw [place, List.nodup_cons]
    refine ⟨fun hmem => ?_, ih _⟩
    -- A later sibling has more siblings before it.
    obtain ⟨passed, hsame⟩ := exists_of_mem_place hmem
    have hlength := congrArg (fun c : Cursor => c.address.head?) hsame
    simp only [address, List.head?_cons, Option.some.injEq, List.length_append,
      List.length_cons] at hlength
    omega

theorem nodup_children (c : Cursor) : c.children.Nodup :=
  nodup_place c [] c.tree.children

theorem find?_reverse_place (parent : Cursor) (trees : List ParseTree) :
    (place parent [] trees).reverse.find? (fun sibling => sibling.info.isNamed) =
      nearestNamed? parent trees.reverse := by
  induction trees using List.reverseRecOn with
  | nil => rfl
  | append_singleton trees tree ih =>
    rw [place_append, List.append_nil, place, place, List.reverse_append, List.reverse_append,
      List.reverse_singleton, List.reverse_singleton, List.singleton_append, List.singleton_append,
      List.find?_cons, nearestNamed?, ih]
    have hinfo : (child parent trees.reverse tree).info = tree.info := rfl
    rw [hinfo]
    cases tree.info.isNamed with
    | true => rfl
    | false => rfl

theorem eq_place_of_children {before after : List Cursor}
    (h : parent.children = before ++ c :: after) :
    before = place parent [] (before.map Cursor.tree) ∧
      c = child parent (before.map Cursor.tree).reverse c.tree := by
  have htrees : parent.tree.children =
      before.map Cursor.tree ++ c.tree :: after.map Cursor.tree := by
    rw [← map_tree_place parent [] parent.tree.children, ← children, h, List.map_append,
      List.map_cons]
  rw [children, htrees, place_append, List.append_nil, place] at h
  have hlength : (place parent [] (before.map Cursor.tree)).length = before.length := by
    rw [← List.length_map Cursor.tree, map_tree_place, List.length_map]
  obtain ⟨hbefore, hrest⟩ := List.append_inj h hlength
  exact ⟨hbefore.symm, (List.cons.inj hrest).1.symm⟩

/-- The siblings before a child are searched for the named one nearest to it. -/
theorem previousNamedSibling?_eq {before after : List Cursor}
    (h : parent.children = before ++ c :: after) :
    c.previousNamedSibling? = before.reverse.find? fun sibling => sibling.info.isNamed := by
  obtain ⟨hbefore, hc⟩ := eq_place_of_children h
  rw [hc, previousNamedSibling?, ← find?_reverse_place, ← hbefore]

/-- A named child comes before another child of its parent, with only tokens in between. -/
def IsPreviousNamed (sibling c : Cursor) : Prop :=
  ∃ (parent : Cursor) (before between after : List Cursor),
    parent.children = before ++ sibling :: between ++ c :: after ∧
      sibling.info.isNamed = true ∧ ∀ token ∈ between, token.info.isNamed = false

theorem IsPreviousNamed.named {sibling : Cursor} (h : IsPreviousNamed sibling c) :
    sibling.info.isNamed = true := by
  obtain ⟨_, _, _, _, _, hnamed, _⟩ := h
  exact hnamed

theorem IsPreviousNamed.previousNamedSibling?_eq {sibling : Cursor} (h : IsPreviousNamed sibling c) :
    c.previousNamedSibling? = some sibling := by
  obtain ⟨parent, before, between, after, hchildren, hnamed, htokens⟩ := h
  rw [Cursor.previousNamedSibling?_eq hchildren, List.reverse_append, List.reverse_cons,
    List.append_assoc, List.find?_append]
  have hnone : (between.reverse.find? fun token => token.info.isNamed) = none := by
    rw [List.find?_eq_none]
    intro token htoken
    rw [htokens token (List.mem_reverse.mp htoken)]
    exact Bool.false_ne_true
  rw [hnone, Option.none_or, List.singleton_append, List.find?_cons, hnamed]

/-- What is found before a place in a tree is its previous named sibling. -/
theorem isPreviousNamed_of_eq_some {sibling : Cursor} (hc : Within tree c)
    (h : c.previousNamedSibling? = some sibling) : IsPreviousNamed sibling c := by
  cases hc with
  | root => cases h
  | @child parent _ _ hchild =>
    obtain ⟨before, after, hchildren⟩ := List.append_of_mem hchild
    rw [previousNamedSibling?_eq hchildren, List.find?_eq_some_iff_append] at h
    obtain ⟨hnamed, tokens, others, hreverse, htokens⟩ := h
    refine ⟨parent, others.reverse, tokens.reverse, after, ?_, hnamed, ?_⟩
    · have hbefore := congrArg List.reverse hreverse
      rw [List.reverse_reverse, List.reverse_append, List.reverse_cons, List.append_assoc,
        List.singleton_append] at hbefore
      rw [hchildren, hbefore]
    · intro token htoken
      simpa using htokens token (List.mem_reverse.mp htoken)

theorem tokens_of_eq_none {before after : List Cursor}
    (hchildren : parent.children = before ++ c :: after) (h : c.previousNamedSibling? = none) :
    ∀ token ∈ before, token.info.isNamed = false := by
  rw [previousNamedSibling?_eq hchildren, List.find?_eq_none] at h
  intro token htoken
  simpa using h token (List.mem_reverse.mpr htoken)

/-! ## Two places in a tree -/

theorem AtOrBelow.trans {z : Cursor} (hxy : AtOrBelow x y) (hyz : AtOrBelow y z) :
    AtOrBelow x z := by
  induction hyz with
  | self => exact hxy
  | child _ hchild ih => exact ih.child hchild

theorem Within.atOrBelow_root (h : Within tree c) : AtOrBelow (.root tree) c := by
  induction h with
  | root => exact .self
  | child _ hchild ih => exact ih.child hchild

/-- What lies below a place lies at or below one of its children. -/
theorem AtOrBelow.eq_or_exists_child (h : AtOrBelow top c) :
    c = top ∨ ∃ d ∈ top.children, AtOrBelow d c := by
  induction h with
  | self => exact Or.inl rfl
  | @child parent c h hchild ih =>
    right
    rcases ih with rfl | ⟨d, hd, hbelow⟩
    · exact ⟨c, hchild, .self⟩
    · exact ⟨d, hd, hbelow.child hchild⟩

/-- What lies at or above a child is the child or lies at or above its parent. -/
theorem AtOrBelow.eq_or_parent (h : AtOrBelow top c) (hchild : c ∈ parent.children) :
    top = c ∨ AtOrBelow top parent := by
  cases h with
  | self => exact Or.inl rfl
  | @child other _ h hother =>
    exact Or.inr (eq_of_mem_children hother hchild ▸ h)

theorem pair_sublist {before after : List Cursor} (hx : x ∈ before) (hy : y ∈ after) :
    [x, y].Sublist (before ++ after) :=
  (List.singleton_sublist.mpr hx).append (List.singleton_sublist.mpr hy)

theorem eq_or_sublist_of_mem {siblings : List Cursor} (hx : x ∈ siblings) (hy : y ∈ siblings) :
    x = y ∨ [x, y].Sublist siblings ∨ [y, x].Sublist siblings := by
  obtain ⟨before, after, rfl⟩ := List.append_of_mem hx
  rcases List.mem_append.mp hy with hbefore | hafter
  · right
    right
    exact pair_sublist hbefore List.mem_cons_self
  · rcases List.mem_cons.mp hafter with rfl | hafter
    · exact Or.inl rfl
    · right
      left
      exact ((List.singleton_sublist.mpr hafter).cons_cons x).trans (List.sublist_append_right _ _)

theorem Precedes.below_left (h : Precedes tree x y) (hchild : AtOrBelow x c) : Precedes tree c y := by
  obtain ⟨parent, a, b, hparent, hsublist, ha, hb⟩ := h
  exact ⟨parent, a, b, hparent, hsublist, ha.trans hchild, hb⟩

theorem Precedes.below_right (h : Precedes tree x y) (hchild : AtOrBelow y c) :
    Precedes tree x c := by
  obtain ⟨parent, a, b, hparent, hsublist, ha, hb⟩ := h
  exact ⟨parent, a, b, hparent, hsublist, ha, hb.trans hchild⟩

/-- Of two places in a tree one lies at or below the other, or one comes first. -/
theorem Within.trichotomy (hx : Within tree x) (hy : Within tree y) :
    AtOrBelow x y ∨ AtOrBelow y x ∨ Precedes tree x y ∨ Precedes tree y x := by
  induction hy with
  | root => exact Or.inr (Or.inl hx.atOrBelow_root)
  | @child parent y hparent hchild ih =>
    have hbelow : AtOrBelow parent y := AtOrBelow.self.child hchild
    rcases ih with h | h | h | h
    · exact Or.inl (h.trans hbelow)
    · rcases h.eq_or_exists_child with rfl | ⟨a, ha, hax⟩
      · exact Or.inl hbelow
      · rcases eq_or_sublist_of_mem ha hchild with rfl | hsublist | hsublist
        · exact Or.inr (Or.inl hax)
        · exact Or.inr (Or.inr (Or.inl ⟨parent, a, y, hparent, hsublist, hax, .self⟩))
        · exact Or.inr (Or.inr (Or.inr ⟨parent, y, a, hparent, hsublist, .self, hax⟩))
    · exact Or.inr (Or.inr (Or.inl (h.below_right hbelow)))
    · exact Or.inr (Or.inr (Or.inr (h.below_left hbelow)))

end Cursor

/-! ## Stretches of ordered trees -/

namespace ParseTree.Ordered

variable {tree : ParseTree}

theorem leaf {info : NodeInfo} (h : info.startByte ≤ info.endByte) :
    (ParseTree.node info []).Ordered := by
  refine .node h ?_ List.Pairwise.nil ?_ ?_
  · exact fun child hchild => absurd hchild List.not_mem_nil
  · exact fun _ child hchild => absurd hchild List.not_mem_nil
  · exact fun child hchild => absurd hchild List.not_mem_nil

theorem start_le_end (h : tree.Ordered) : tree.info.startByte ≤ tree.info.endByte := by
  cases h with
  | node hle => exact hle

theorem children_inside (h : tree.Ordered) : ∀ child ∈ tree.children,
    tree.info.startByte ≤ child.info.startByte ∧ child.info.endByte ≤ tree.info.endByte := by
  cases h with
  | node _ hinside => exact hinside

theorem children_disjoint (h : tree.Ordered) : tree.children.Pairwise fun earlier later =>
    earlier.info.endByte ≤ later.info.startByte := by
  cases h with
  | node _ _ hdisjoint => exact hdisjoint

theorem children_tokens (h : tree.Ordered) (htoken : tree.info.isNamed = false) :
    ∀ child ∈ tree.children, child.info.isNamed = false := by
  cases h with
  | node _ _ _ htokens => exact htokens htoken

theorem children_ordered (h : tree.Ordered) : ∀ child ∈ tree.children, child.Ordered := by
  cases h with
  | node _ _ _ _ hbelow => exact hbelow

end ParseTree.Ordered

namespace Cursor

variable {tree : ParseTree} {parent c top x y : Cursor}

theorem ordered_of_mem_children (hparent : parent.tree.Ordered) (h : c ∈ parent.children) :
    c.tree.Ordered :=
  hparent.children_ordered _ (tree_mem_children h)

theorem AtOrBelow.ordered (h : AtOrBelow top c) (htop : top.tree.Ordered) : c.tree.Ordered := by
  induction h with
  | self => exact htop
  | child _ hchild ih => exact ordered_of_mem_children ih hchild

theorem Within.ordered (h : Within tree c) (htree : tree.Ordered) : c.tree.Ordered :=
  h.atOrBelow_root.ordered htree

/-- What lies at or below a place lies inside its stretch. -/
theorem AtOrBelow.inside (h : AtOrBelow top c) (htop : top.tree.Ordered) :
    top.info.startByte ≤ c.info.startByte ∧ c.info.endByte ≤ top.info.endByte := by
  induction h with
  | self => exact ⟨Nat.le_refl _, Nat.le_refl _⟩
  | child h hchild ih =>
    obtain ⟨hstart, hend⟩ :=
      (h.ordered htop).children_inside _ (tree_mem_children hchild)
    exact ⟨Nat.le_trans ih.1 hstart, Nat.le_trans hend ih.2⟩

/-- Below a token there are only tokens. -/
theorem AtOrBelow.token (h : AtOrBelow top c) (htop : top.tree.Ordered)
    (htoken : top.info.isNamed = false) : c.info.isNamed = false := by
  induction h with
  | self => exact htoken
  | child h hchild ih =>
    exact (h.ordered htop).children_tokens ih _ (tree_mem_children hchild)

/-- An earlier sibling ends before a later one starts. -/
theorem end_le_start_of_sublist (hparent : parent.tree.Ordered)
    (h : [x, y].Sublist parent.children) : x.info.endByte ≤ y.info.startByte := by
  have hpairs : parent.children.Pairwise fun x y => x.info.endByte ≤ y.info.startByte := by
    have hdisjoint := hparent.children_disjoint
    rw [← map_tree_place parent [] parent.tree.children, List.pairwise_map] at hdisjoint
    exact hdisjoint
  exact List.pairwise_iff_forall_sublist.mp hpairs h

/-- What comes first ends before the other starts. -/
theorem Precedes.end_le_start (h : Precedes tree x y) (htree : tree.Ordered) :
    x.info.endByte ≤ y.info.startByte := by
  obtain ⟨parent, a, b, hparent, hsublist, ha, hb⟩ := h
  have hordered := hparent.ordered htree
  have hchild : ∀ d ∈ [a, b], d.tree.Ordered := fun d hd =>
    ordered_of_mem_children hordered (hsublist.subset hd)
  have hax := ha.inside (hchild a (by simp))
  have hby := hb.inside (hchild b (by simp))
  have hab := end_le_start_of_sublist hordered hsublist
  exact Nat.le_trans hax.2 (Nat.le_trans hab hby.1)

end Cursor

end SourceBlocks
