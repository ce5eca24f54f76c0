import Mathlib.Data.List.Lex
import Mathlib.Logic.Function.Iterate
import SourceBlocks.Proofs.ParseTree.Order

/-!
# The walk through the descendants of a node

Descendants are visited with a stack: the place on top is visited and gives way to its children, of
which the first lies on top.  What has been visited, followed by what the stack still stands for, is
the same list all along, and the number of nodes on the stack falls by one with each visit.  So the
walk ends, and yields what a recursion over the tree yields: each child followed by its own
descendants.  In this list every descendant stands once and in document order, and a search for a
kind of node finds the earliest one.
-/

namespace SourceBlocks.Cursor

mutual

/-- The places below a place with this tree, by recursion over the tree. -/
def preorderBelow (c : Cursor) : ParseTree → List Cursor
  | .node _ children => preorderAmong c [] children

/-- The places of trees that stand side by side, each followed by the places below it. -/
def preorderAmong (parent : Cursor) (earlier : List ParseTree) : List ParseTree → List Cursor
  | [] => []
  | tree :: later =>
    child parent earlier tree :: preorderBelow (child parent earlier tree) tree ++
      preorderAmong parent (tree :: earlier) later

end

/-- The descendants of a place by recursion: each child, from the first to the last, followed by
its own descendants. -/
def preorder (c : Cursor) : List Cursor := preorderBelow c c.tree

/-- One place comes before another in the document: below some place it lies at or below an earlier
child, or the other place lies below it.  The paths that lead down to the two say which. -/
def ComesBefore (x y : Cursor) : Prop :=
  List.Lex (· < ·) x.address.reverse y.address.reverse

/-- A walk under way: the places that wait, of which the last is the next one, and the places
visited so far. -/
structure Walk where
  stack : List Cursor
  visited : List Cursor

namespace Walk

/-- The walk through the descendants of a place, before the first of them is visited. -/
def below (c : Cursor) : Walk := ⟨c.children.reverse, []⟩

/-- Visits the next place, whose children wait in its stead.  Nothing happens when none waits. -/
def step (w : Walk) : Walk :=
  match w.stack.getLast? with
  | none => w
  | some c => ⟨w.stack.dropLast ++ c.children.reverse, w.visited ++ [c]⟩

end Walk

variable {c d e parent top x y : Cursor} {earlier trees : List ParseTree} {kind : String}

/-! ## Recursion over the tree -/

theorem preorderAmong_eq (parent : Cursor) (earlier trees : List ParseTree) :
    preorderAmong parent earlier trees =
      (place parent earlier trees).flatMap fun c => c :: c.preorder := by
  induction trees generalizing earlier with
  | nil => rw [preorderAmong, place, List.flatMap_nil]
  | cons tree trees ih =>
    rw [preorderAmong, place, List.flatMap_cons, ih]
    rfl

theorem preorder_eq (c : Cursor) :
    c.preorder = c.children.flatMap fun child => child :: child.preorder := by
  rw [children, ← preorderAmong_eq, preorder]
  cases c.tree with
  | node info children => rfl

/-- The stack stands for the places on it and all that lies below them. -/
theorem visit_eq_flatMap (stack : List Cursor) :
    visit stack = stack.flatMap fun c => c :: c.preorder := by
  fun_induction visit stack with
  | case1 => rfl
  | case2 c stack ih =>
    rw [ih, List.flatMap_append, ← preorder_eq, List.flatMap_cons, List.cons_append]

theorem descendants_eq_preorder (c : Cursor) : c.descendants = c.preorder := by
  rw [descendants, visit_eq_flatMap, ← preorder_eq]

theorem size_le_totalSize {stack : List Cursor} (h : c ∈ stack) :
    c.tree.size ≤ totalSize stack := by
  induction stack with
  | nil => exact absurd h List.not_mem_nil
  | cons d stack ih =>
    rw [totalSize]
    rcases List.mem_cons.mp h with rfl | h
    · omega
    · have := ih h
      omega

/-- What holds of a place whenever it holds of its children holds of every place. -/
theorem children_induction {motive : Cursor → Prop}
    (step : ∀ c, (∀ child ∈ c.children, motive child) → motive c) (c : Cursor) : motive c := by
  induction hsize : c.tree.size using Nat.strong_induction_on generalizing c with
  | _ size ih =>
    apply step
    intro child hchild
    have hle := size_le_totalSize hchild
    have htotal := totalSize_children c
    exact ih child.tree.size (by omega) child rfl

theorem mem_preorder_iff_exists_child :
    d ∈ c.preorder ↔ ∃ child ∈ c.children, AtOrBelow child d := by
  induction c using children_induction with
  | step c ih =>
    simp only [preorder_eq c, List.mem_flatMap, List.mem_cons]
    refine exists_congr fun child => and_congr_right fun hchild => ?_
    rw [ih child hchild]
    constructor
    · rintro (rfl | ⟨below, hbelow, h⟩)
      · exact .self
      · exact (AtOrBelow.self.child hbelow).trans h
    · exact AtOrBelow.eq_or_exists_child

/-! ## Document order -/

/-- The path to what lies at or below a place goes through the place. -/
theorem AtOrBelow.exists_path (h : AtOrBelow top c) :
    ∃ steps, c.address.reverse = top.address.reverse ++ steps := by
  induction h with
  | self => exact ⟨[], (List.append_nil _).symm⟩
  | @child parent c h hchild ih =>
    obtain ⟨steps, hsteps⟩ := ih
    obtain ⟨passed, hc⟩ := exists_of_mem_place hchild
    refine ⟨steps ++ [(passed ++ []).length], ?_⟩
    rw [hc, address, List.reverse_cons, hsteps, List.append_assoc]

/-- Of two children of a place the earlier one has the smaller number. -/
theorem place_pairwise (parent : Cursor) (earlier trees : List ParseTree) :
    (place parent earlier trees).Pairwise fun x y =>
      ∃ i j, i < j ∧ x.address = i :: parent.address ∧ y.address = j :: parent.address := by
  induction trees generalizing earlier with
  | nil => exact .nil
  | cons tree trees ih =>
    rw [place, List.pairwise_cons]
    refine ⟨fun y hy => ?_, ih _⟩
    obtain ⟨passed, hy⟩ := exists_of_mem_place hy
    refine ⟨earlier.length, (passed ++ tree :: earlier).length, ?_, rfl, by rw [hy, address]⟩
    rw [List.length_append, List.length_cons]
    omega

theorem comesBefore_of_child (hchild : d ∈ c.children) (h : AtOrBelow d e) : ComesBefore c e := by
  obtain ⟨passed, hd⟩ := exists_of_mem_place hchild
  obtain ⟨steps, hsteps⟩ := h.exists_path
  rw [ComesBefore, hsteps, hd, address, List.reverse_cons, List.append_assoc]
  nth_rewrite 1 [← List.append_nil c.address.reverse]
  exact List.Lex.append_left _ .nil _

/-- What lies at or below an earlier child comes before what lies at or below a later one. -/
theorem comesBefore_of_siblings {i j : Nat} (hij : i < j) (hx : x.address = i :: parent.address)
    (hy : y.address = j :: parent.address) (hd : AtOrBelow x d) (he : AtOrBelow y e) :
    ComesBefore d e := by
  obtain ⟨steps, hsteps⟩ := hd.exists_path
  obtain ⟨steps', hsteps'⟩ := he.exists_path
  rw [ComesBefore, hsteps, hsteps', hx, hy, List.reverse_cons, List.reverse_cons,
    List.append_assoc, List.append_assoc]
  exact List.Lex.append_left _ (.rel hij) _

theorem comesBefore_asymm (h : ComesBefore x y) : ¬ ComesBefore y x :=
  fun hback => List.lt_asymm h hback

theorem preorder_ascending (c : Cursor) : c.preorder.Pairwise ComesBefore := by
  induction c using children_induction with
  | step c ih =>
    -- Each child comes with its own descendants, before those of the later children.
    have hown : ∀ child d, d ∈ child :: child.preorder → AtOrBelow child d := by
      intro child d hd
      rcases List.mem_cons.mp hd with rfl | hd
      · exact .self
      · obtain ⟨below, hbelow, h⟩ := mem_preorder_iff_exists_child.mp hd
        exact (AtOrBelow.self.child hbelow).trans h
    rw [preorder_eq, List.pairwise_flatMap]
    constructor
    · intro child hchild
      rw [List.pairwise_cons]
      refine ⟨fun d hd => ?_, ih child hchild⟩
      obtain ⟨below, hbelow, h⟩ := mem_preorder_iff_exists_child.mp hd
      exact comesBefore_of_child hbelow h
    · refine (place_pairwise c [] c.tree.children).imp ?_
      rintro a b ⟨i, j, hij, ha, hb⟩ x hx y hy
      exact comesBefore_of_siblings hij ha hb (hown a x hx) (hown b y hy)

theorem mem_preorder_iff : d ∈ c.preorder ↔ AtOrBelow c d ∧ d ≠ c := by
  rw [mem_preorder_iff_exists_child]
  constructor
  · rintro ⟨child, hchild, h⟩
    refine ⟨(AtOrBelow.self.child hchild).trans h, ?_⟩
    rintro rfl
    have hself := comesBefore_of_child hchild h
    exact comesBefore_asymm hself hself
  · rintro ⟨h, hne⟩
    exact h.eq_or_exists_child.resolve_left hne

/-! ## Visits -/

theorem visit_eq_nil_iff {stack : List Cursor} : visit stack = [] ↔ stack = [] := by
  cases stack with
  | nil => simp [visit]
  | cons c stack => simp [visit]

namespace Walk

theorem step_of_stack_eq_nil {w : Walk} (h : w.stack = []) : w.step = w := by
  rw [step, h]
  rfl

theorem step_concat (others visited : List Cursor) (c : Cursor) :
    step ⟨others ++ [c], visited⟩ = ⟨others ++ c.children.reverse, visited ++ [c]⟩ := by
  rw [step, List.getLast?_concat]
  dsimp only
  rw [List.dropLast_concat]

theorem step_length {w : Walk} (h : w.stack ≠ []) :
    w.step.visited.length = w.visited.length + 1 := by
  obtain ⟨stack, visited⟩ := w
  rcases List.eq_nil_or_concat' stack with rfl | ⟨others, c, rfl⟩
  · exact absurd rfl h
  · rw [step_concat, List.length_append, List.length_singleton]

/-- What has been visited and what the stack stands for are the same list after a visit. -/
theorem step_visits (w : Walk) :
    w.step.visited ++ visit w.step.stack.reverse = w.visited ++ visit w.stack.reverse := by
  obtain ⟨stack, visited⟩ := w
  rcases List.eq_nil_or_concat' stack with rfl | ⟨others, c, rfl⟩
  · rfl
  · rw [step_concat, List.reverse_append, List.reverse_reverse, List.reverse_concat, visit,
      List.append_assoc, List.singleton_append]

theorem iterate_visits (c : Cursor) (m : Nat) :
    (step^[m] (below c)).visited ++ visit (step^[m] (below c)).stack.reverse = c.descendants := by
  induction m with
  | zero =>
    rw [Function.iterate_zero, id, below, List.reverse_reverse, List.nil_append, descendants]
  | succ m ih => rw [Function.iterate_succ_apply', step_visits, ih]

/-- Nothing waits exactly when everything has been visited. -/
theorem iterate_stack_eq_nil_iff (c : Cursor) (m : Nat) :
    (step^[m] (below c)).stack = [] ↔
      (step^[m] (below c)).visited.length = c.descendants.length := by
  rw [← iterate_visits c m, List.length_append, Nat.left_eq_add, List.length_eq_zero_iff,
    visit_eq_nil_iff, List.reverse_eq_nil_iff]

/-- Each step visits one more place until nothing waits. -/
theorem iterate_length (c : Cursor) (m : Nat) :
    (step^[m] (below c)).visited.length = min m c.descendants.length := by
  induction m with
  | zero => rw [Nat.zero_min, Function.iterate_zero, id, below, List.length_nil]
  | succ m ih =>
    rw [Function.iterate_succ_apply']
    by_cases hstack : (step^[m] (below c)).stack = []
    · have hall := (iterate_stack_eq_nil_iff c m).mp hstack
      rw [step_of_stack_eq_nil hstack]
      omega
    · have hsome := mt (iterate_stack_eq_nil_iff c m).mpr hstack
      rw [step_length hstack]
      omega

/-- After some steps the walk has visited as many descendants, from the first on. -/
theorem iterate_visited (c : Cursor) (m : Nat) :
    (step^[m] (below c)).visited = c.descendants.take m := by
  have hprefix : (step^[m] (below c)).visited <+: c.descendants := ⟨_, iterate_visits c m⟩
  rw [List.prefix_iff_eq_take.mp hprefix, iterate_length, ← List.take_eq_take_min]

theorem iterate_stack_eq_nil_iff_le (c : Cursor) (m : Nat) :
    (step^[m] (below c)).stack = [] ↔ c.descendants.length ≤ m := by
  rw [iterate_stack_eq_nil_iff, iterate_length]
  omega

end Walk

/-! ## The descendants in document order -/

/-- A place is the earliest one below another place that is of a certain kind. -/
structure IsEarliest (c : Cursor) (kind : String) (d : Cursor) : Prop where
  below : AtOrBelow c d
  ne : d ≠ c
  kind_eq : d.kind = kind
  least : ∀ e, AtOrBelow c e → e ≠ c → e.kind = kind → e = d ∨ ComesBefore d e

theorem IsEarliest.unique (hd : IsEarliest c kind d) (he : IsEarliest c kind e) : d = e := by
  rcases he.least d hd.below hd.ne hd.kind_eq with heq | hbefore
  · exact heq
  · rcases hd.least e he.below he.ne he.kind_eq with heq | hafter
    · exact heq.symm
    · exact absurd hafter (comesBefore_asymm hbefore)

/-- The search for a kind goes through the descendants and stops at the earliest of this kind. -/
theorem isEarliest_of_firstDescendant? (h : c.firstDescendant? kind = some d) :
    IsEarliest c kind d := by
  rw [firstDescendant?, descendants_eq_preorder, List.find?_eq_some_iff_append] at h
  obtain ⟨hkind, passed, later, hsplit, hpassed⟩ := h
  have hmem : d ∈ c.preorder := by
    rw [hsplit]
    exact List.mem_append_cons_self
  obtain ⟨hbelow, hne⟩ := mem_preorder_iff.mp hmem
  refine ⟨hbelow, hne, of_decide_eq_true hkind, fun e he hene hekind => ?_⟩
  have hascending := preorder_ascending c
  have hemem : e ∈ c.preorder := mem_preorder_iff.mpr ⟨he, hene⟩
  rw [hsplit] at hascending hemem
  rcases List.mem_append.mp hemem with hearlier | hfrom
  · have hother := hpassed e hearlier
    simp [hekind] at hother
  · rcases List.mem_cons.mp hfrom with rfl | hlater
    · exact Or.inl rfl
    · right
      exact (List.pairwise_cons.mp (List.pairwise_append.mp hascending).2.1).1 e hlater

theorem firstDescendant?_eq_none_iff :
    c.firstDescendant? kind = none ↔ ∀ d, AtOrBelow c d → d ≠ c → d.kind ≠ kind := by
  rw [firstDescendant?, descendants_eq_preorder, List.find?_eq_none]
  simp only [mem_preorder_iff, decide_eq_true_eq, and_imp]

theorem firstDescendant?_eq_some_iff :
    c.firstDescendant? kind = some d ↔ IsEarliest c kind d := by
  refine ⟨isEarliest_of_firstDescendant?, fun hd => ?_⟩
  cases hfound : c.firstDescendant? kind with
  | none => exact absurd hd.kind_eq (firstDescendant?_eq_none_iff.mp hfound d hd.below hd.ne)
  | some e => rw [(isEarliest_of_firstDescendant? hfound).unique hd]

/-- The walk through the descendants of a place: it takes one step for each of them, follows the
recursion over the tree, and passes them in document order. -/
structure WalksInOrder (c : Cursor) : Prop where
  visited_eq : ∀ m, (Walk.step^[m] (.below c)).visited = c.descendants.take m
  ends_iff : ∀ m, (Walk.step^[m] (.below c)).stack = [] ↔ c.descendants.length ≤ m
  recursive : c.descendants = c.preorder
  mem_iff : ∀ d, d ∈ c.descendants ↔ AtOrBelow c d ∧ d ≠ c
  nodup : c.descendants.Nodup
  ascending : c.descendants.Pairwise ComesBefore
  first_iff : ∀ kind d, c.firstDescendant? kind = some d ↔ IsEarliest c kind d
  none_iff : ∀ kind, c.firstDescendant? kind = none ↔
    ∀ d, AtOrBelow c d → d ≠ c → d.kind ≠ kind

/-- The walk with a stack visits the descendants of a place in the order of the recursion over the
tree, and a search on it finds the earliest descendant of a kind. -/
theorem descendants_in_document_order (c : Cursor) : WalksInOrder c where
  visited_eq := Walk.iterate_visited c
  ends_iff := Walk.iterate_stack_eq_nil_iff_le c
  recursive := descendants_eq_preorder c
  mem_iff := by
    intro d
    rw [descendants_eq_preorder, mem_preorder_iff]
  nodup := by
    rw [descendants_eq_preorder]
    refine (preorder_ascending c).imp ?_
    rintro x y hbefore rfl
    exact comesBefore_asymm hbefore hbefore
  ascending := by
    rw [descendants_eq_preorder]
    exact preorder_ascending c
  first_iff := fun _ _ => firstDescendant?_eq_some_iff
  none_iff := fun _ => firstDescendant?_eq_none_iff

end SourceBlocks.Cursor
