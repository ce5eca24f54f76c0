import SourceBlocks.Description
import SourceBlocks.Proofs.ParseTree.Agreement
import SourceBlocks.Proofs.Trimming

/-!
# Signatures

The signature of a function-like node is the beginning of its own text.  It ends where the body
begins, or else at an arrow function's arrow, or else at the first brace, and nothing is left out
before that but white space and, before a body, one opening brace.
-/

namespace SourceBlocks

open Text

namespace Cursor

/-- The child that is the body of the node. -/
def body? (c : Cursor) : Option Cursor :=
  c.children.find? fun node => node.info.field = some "body"

/-- The arrow of an arrow function. -/
def arrow? (c : Cursor) : Option Cursor :=
  if c.kind = "arrow_function" then c.children.find? fun node => node.kind = "=>" else none

/-- A beginning of the text of a node that ends where another node starts. -/
structure ReachesTo (c stop : Cursor) (front : Text) : Prop where
  begins : front <+: c.text
  size_eq : c.info.startByte + Utf8.size front = stop.info.startByte

/-- A text is the header of a node. -/
structure IsHeader (c : Cursor) (signature : Text) : Prop where
  trimmed : signature.IsTrimmed
  begins : signature <+: c.text.dropWhile isBlank
  before_body : ∀ body, c.body? = some body → ∃ front, c.ReachesTo body front ∧
    (front.Surrounds signature [] ∨ front.Surrounds signature ['\x7b'])
  before_arrow : c.body? = none → ∀ arrow, c.arrow? = some arrow → ∃ front,
    c.ReachesTo arrow front ∧ front.Surrounds signature []
  before_brace : c.body? = none → c.arrow? = none →
    '\x7b' ∉ signature ∧ Surrounds (c.text.takeWhile (· ≠ '\x7b')) signature []

variable {content : Text} {tree : ParseTree} {c stop : Cursor} {source : Octets} {header : Text}

/-! ## The text before a child -/

/-- The header of a node before one of its children is a beginning of its text, trimmed. -/
theorem exists_reachesTo (hnode : c.tree.Agrees content) (hstop : stop ∈ c.children) :
    ∃ front, c.ReachesTo stop front ∧ c.header (Utf8.encode content) stop = trim front := by
  have hchild := tree_mem_children hstop
  obtain ⟨hstart, hend⟩ := hnode.children_inside _ hchild
  have hagrees := (hnode.children_agree _ hchild).info_agrees
  obtain ⟨before, after, hcontent, hbefore, hsize, -, -⟩ := exists_split hnode.info_agrees
  have hboundary : Utf8.IsBoundary (before ++ c.text ++ after) stop.info.startByte :=
    hcontent ▸ hagrees.start_boundary
  obtain ⟨front, hfront, hstop⟩ := Utf8.exists_front_of_boundary hboundary
    (Nat.le_trans (Nat.le_of_eq hbefore) hstart)
    (Nat.le_trans (Nat.le_trans hagrees.start_le_end hend) (Nat.le_of_eq hsize.symm))
  refine ⟨front, ⟨hfront, ?_⟩, ?_⟩
  · rw [← hbefore, ← Utf8.size_append, hstop]
  · obtain ⟨later, hlater⟩ := hfront
    have hsplit : content = before ++ front ++ (later ++ after) := by
      rw [hcontent, ← hlater]
      simp only [List.append_assoc]
    rw [Cursor.header, ← hbefore, ← hstop, hsplit, Utf8.slice_encode, Utf8.decodeLossy_encode]

/-! ## Taking a brace off -/

theorem isTrimmed_withoutBrace (h : header.IsTrimmed) : (withoutBrace header).IsTrimmed := by
  rw [withoutBrace]
  split
  · exact isTrimmed_trim _
  · exact h

theorem surrounds_withoutBrace {front : Text} (h : front.Surrounds header []) :
    front.Surrounds (withoutBrace header) [] ∨
      front.Surrounds (withoutBrace header) ['\x7b'] := by
  rw [withoutBrace]
  split
  next hlast =>
    right
    obtain ⟨inner, rfl⟩ := List.getLast?_eq_some_iff.mp hlast
    rw [List.dropLast_concat]
    exact h.of_concat (by decide) (surrounds_trim inner)
  next => exact Or.inl h

/-! ## The branches -/

theorem getD_before? (stop : Char) (t : Text) :
    (before? stop t).getD t = t.takeWhile (· ≠ stop) := by
  rw [before?]
  split
  next => rfl
  next hnone =>
    symm
    rw [Option.getD_none, List.takeWhile_eq_self_iff]
    intro c hc
    apply decide_eq_true
    rintro rfl
    exact hnone (List.contains_iff_mem.mpr hc)

theorem signature?_other (h : c.kind ∉ Kind.functionLike) : c.signature? source = .ok none := by
  have hcontains : Kind.functionLike.contains c.kind = false := by simpa using h
  rw [signature?, hcontains]
  rfl

section

variable (hkind : c.kind ∈ Kind.functionLike)
include hkind

theorem signature?_refused {message : Text} (h : c.info.lookupRefusal = some message) :
    c.signature? source = .error ⟨message⟩ := by
  have hcontains : Kind.functionLike.contains c.kind = true := List.contains_iff_mem.mpr hkind
  rw [signature?, hcontains, childByField?, h]
  rfl

theorem signature?_of_body (hlookup : c.childByField? "body" = .ok c.body?)
    (hbody : c.body? = some stop) :
    c.signature? source = .ok (some (withoutBrace (c.header source stop))) := by
  have hcontains : Kind.functionLike.contains c.kind = true := List.contains_iff_mem.mpr hkind
  rw [signature?, hcontains, hlookup, hbody]
  rfl

theorem signature?_of_no_body (hlookup : c.childByField? "body" = .ok c.body?)
    (hbody : c.body? = none) :
    c.signature? source = .ok (some (match c.arrow? with
      | some arrow => c.header source arrow
      | none => trim (c.text.takeWhile (· ≠ '\x7b')))) := by
  have hcontains : Kind.functionLike.contains c.kind = true := List.contains_iff_mem.mpr hkind
  rw [signature?, hcontains, hlookup, hbody, ← getD_before?]
  show (match c.arrow? with
    | some arrow => (.ok (some (c.header source arrow)) : Except LookupRefusal (Option Text))
    | none => .ok (some (trim ((before? '\x7b' c.text).getD c.text)))) = _
  cases c.arrow? with
  | some arrow => rfl
  | none => rfl

end

/-! ## Headers -/

theorem isHeader_of_body (hnode : c.tree.Agrees content) (hbody : c.body? = some stop) :
    c.IsHeader (withoutBrace (c.header (Utf8.encode content) stop)) := by
  obtain ⟨front, hfront, hheader⟩ := exists_reachesTo hnode (List.mem_of_find?_eq_some hbody)
  have htrimmed : (withoutBrace (trim front)).IsTrimmed :=
    isTrimmed_withoutBrace (isTrimmed_trim front)
  have hsurrounds := surrounds_withoutBrace (surrounds_trim front)
  rw [hheader]
  refine ⟨htrimmed, ?_, ?_, ?_, ?_⟩
  · rcases hsurrounds with h | h
    · exact isPrefix_dropWhile htrimmed h hfront.begins
    · exact isPrefix_dropWhile htrimmed h hfront.begins
  · intro body hsame
    obtain rfl : stop = body := Option.some.inj (hbody.symm.trans hsame)
    exact ⟨front, hfront, hsurrounds⟩
  · intro hnone
    exact absurd (hnone.symm.trans hbody) (Option.some_ne_none stop).symm
  · intro hnone
    exact absurd (hnone.symm.trans hbody) (Option.some_ne_none stop).symm

theorem isHeader_of_arrow (hnode : c.tree.Agrees content) (hbody : c.body? = none)
    (harrow : c.arrow? = some stop) : c.IsHeader (c.header (Utf8.encode content) stop) := by
  have hchild : stop ∈ c.children := by
    rw [arrow?] at harrow
    split at harrow
    next => exact List.mem_of_find?_eq_some harrow
    next => cases harrow
  obtain ⟨front, hfront, hheader⟩ := exists_reachesTo hnode hchild
  rw [hheader]
  refine ⟨isTrimmed_trim front, ?_, ?_, ?_, ?_⟩
  · exact isPrefix_dropWhile (isTrimmed_trim front) (surrounds_trim front) hfront.begins
  · intro body hsome
    exact absurd (hbody.symm.trans hsome) (Option.some_ne_none body).symm
  · intro _ arrow hsame
    obtain rfl : stop = arrow := Option.some.inj (harrow.symm.trans hsame)
    exact ⟨front, hfront, surrounds_trim front⟩
  · intro _ hnone
    exact absurd (hnone.symm.trans harrow) (Option.some_ne_none stop).symm

theorem isHeader_of_text (hbody : c.body? = none) (harrow : c.arrow? = none) :
    c.IsHeader (trim (c.text.takeWhile (· ≠ '\x7b'))) := by
  let front := c.text.takeWhile (· ≠ '\x7b')
  have hfront : front <+: c.text := List.takeWhile_prefix _
  refine ⟨isTrimmed_trim front, ?_, ?_, ?_, ?_⟩
  · exact isPrefix_dropWhile (isTrimmed_trim front) (surrounds_trim front) hfront
  · intro body hsome
    exact absurd (hbody.symm.trans hsome) (Option.some_ne_none body).symm
  · intro _ arrow hsome
    exact absurd (harrow.symm.trans hsome) (Option.some_ne_none arrow).symm
  · intro _ _
    refine ⟨fun hbrace => ?_, surrounds_trim front⟩
    have hmem : '\x7b' ∈ front := (surrounds_trim front).mem hbrace
    have hother := List.mem_takeWhile_imp hmem
    exact absurd rfl (of_decide_eq_true hother)

/-- The signature of a function-like node is its header, unless the parser refuses to look up its
body.  Other nodes have none. -/
theorem signature_is_header (content : Text) (tree : ParseTree) (c : Cursor)
    (htree : tree.Agrees content) (hc : Within tree c) :
    (c.kind ∈ Kind.functionLike →
      (∃ signature, c.signature? (Utf8.encode content) = .ok (some signature) ∧
        c.IsHeader signature) ∨
      ∃ message, c.info.lookupRefusal = some message ∧
        c.signature? (Utf8.encode content) = .error ⟨message⟩) ∧
      (c.kind ∉ Kind.functionLike → c.signature? (Utf8.encode content) = .ok none) := by
  have hnode : c.tree.Agrees content := hc.agrees htree
  refine ⟨fun hkind => ?_, signature?_other⟩
  cases hrefusal : c.info.lookupRefusal with
  | some message => exact Or.inr ⟨message, rfl, signature?_refused hkind hrefusal⟩
  | none =>
    left
    have hlookup : c.childByField? "body" = .ok c.body? := by
      rw [childByField?, hrefusal]
      rfl
    cases hbody : c.body? with
    | some body =>
      exact ⟨_, signature?_of_body hkind hlookup hbody, isHeader_of_body hnode hbody⟩
    | none =>
      refine ⟨_, signature?_of_no_body hkind hlookup hbody, ?_⟩
      cases harrow : c.arrow? with
      | some arrow => exact isHeader_of_arrow hnode hbody harrow
      | none => exact isHeader_of_text hbody harrow

/-- A function on the second line, whose body is said to start behind its brace. -/
def bracedContent : Text := "ü\nfunction é() \x7b g \x7d".toList

/-- The body of the function. -/
def bracedBody : ParseTree :=
  .node ⟨"expression", true, 19, 20, 1, 1, some "body", .octets (Utf8.encode "g".toList), none⟩ []

/-- The function. -/
def bracedFunction : ParseTree :=
  .node ⟨"function_declaration", true, 3, 22, 1, 1, none,
    .octets (Utf8.encode "function é() \x7b g \x7d".toList), none⟩ [bracedBody]

/-- The tree of the file. -/
def bracedTree : ParseTree :=
  .node ⟨"program", true, 0, 22, 0, 1, none, .octets (Utf8.encode bracedContent), none⟩
    [bracedFunction]

/-- The function at its place. -/
def bracedNode : Cursor := .child (.root bracedTree) [] bracedFunction

theorem bracedTree_agrees : bracedTree.Agrees bracedContent := by
  have hbody : bracedBody.Agrees bracedContent := by
    refine .leaf ⟨by decide, by decide, ⟨17, by decide⟩, ⟨18, by decide⟩, ?_, by decide,
      by decide⟩
    exact congrArg NodeText.octets (by decide)
  have hfunction : bracedFunction.Agrees bracedContent := by
    refine .of_one_child ⟨by decide, by decide, ⟨2, by decide⟩, ⟨20, by decide⟩, ?_, by decide,
      by decide⟩ hbody (by decide)
    exact congrArg NodeText.octets (by decide)
  refine .of_one_child ⟨by decide, by decide, ⟨0, by decide⟩, ⟨20, by decide⟩, ?_, by decide,
    by decide⟩ hfunction (by decide)
  exact congrArg NodeText.octets (by decide)

theorem signature_is_header_braced :
    bracedTree.Agrees bracedContent ∧ Within bracedTree bracedNode ∧
      bracedNode.kind ∈ Kind.functionLike ∧
      bracedNode.signature? (Utf8.encode bracedContent) = .ok (some "function é()".toList) ∧
      bracedNode.IsHeader "function é()".toList := by
  have hwithin : Within bracedTree bracedNode := Within.root.child List.mem_cons_self
  have hkind : bracedNode.kind ∈ Kind.functionLike := by decide
  have hheader : bracedNode.header (Utf8.encode bracedContent) (.child bracedNode [] bracedBody) =
      trim "function é() \x7b ".toList :=
    congrArg trim (Utf8.decodeLossy_encode "function é() \x7b ".toList)
  have hsignature : bracedNode.signature? (Utf8.encode bracedContent) =
      .ok (some "function é()".toList) := by
    rw [signature?_of_body hkind rfl rfl, hheader]
    rfl
  refine ⟨bracedTree_agrees, hwithin, hkind, hsignature, ?_⟩
  rcases (signature_is_header bracedContent bracedTree bracedNode bracedTree_agrees hwithin).1
    hkind with ⟨signature, hsame, hisHeader⟩ | ⟨message, hrefusal, -⟩
  · obtain rfl := Option.some.inj (Except.ok.inj (hsame.symm.trans hsignature))
    exact hisHeader
  · cases hrefusal

end Cursor

end SourceBlocks
