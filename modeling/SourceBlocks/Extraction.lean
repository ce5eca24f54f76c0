import SourceBlocks.Capture
import SourceBlocks.Chunking
import SourceBlocks.Description
import SourceBlocks.Path

/-!
# Extraction of blocks from a parsed file

Each capture yields portions of the file: a node that becomes one block, or a node whose lines are
packed.  A statement that declares variables at file scope yields one portion for each variable.
The portions are then emitted in order.  A failure ends the extraction, yet the fingerprints
admitted and the events reported before it stand.

A file without captures is packed as a whole.
-/

namespace SourceBlocks

/-- Why an extraction fails. -/
inductive ExtractionFailure where
  /-- The parser refused to look up a field. -/
  | lookupRefused (refusal : LookupRefusal)
  /-- The limits have no threshold. -/
  | thresholdOverflow
  deriving DecidableEq, Repr

/-- The sentence that reports a failure. -/
def ExtractionFailure.message : ExtractionFailure → Text
  | lookupRefused refusal => refusal.message
  | thresholdOverflow => Limits.overflowMessage

/-- The file that blocks are extracted from. -/
structure SourceFile where
  path : Text
  modulePath : Text
  octets : Octets

/-- A part of a file that is emitted in one go. -/
inductive Portion where
  /-- A block as it is. -/
  | whole (block : Block)
  /-- Text whose lines are packed. -/
  | packed (sizing : Sizing) (span : Span) (text : Text)

/-- The outcome of an extraction, the fingerprints admitted after it, and what was reported. -/
structure Extraction where
  outcome : Except ExtractionFailure (List Block)
  admitted : Admitted
  events : List Event

/-- Emits a portion. -/
def Portion.emit : Portion → Admitted → Emission
  | whole block, admitted =>
    match admitted.accept block with
    | (true, admitted) => ⟨[block], admitted, []⟩
    | (false, admitted) => .none admitted
  | packed sizing span text, admitted =>
    Chunking.chunkLines sizing span (Text.lines text) admitted

/-- Emits portions in order, up to the first failure. -/
def Extraction.ofPortions : List (Except ExtractionFailure Portion) → Admitted → Extraction
  | [], admitted => ⟨.ok [], admitted, []⟩
  | .error failure :: _, admitted => ⟨.error failure, admitted, []⟩
  | .ok portion :: later, admitted =>
    let emission := portion.emit admitted
    let rest := ofPortions later emission.admitted
    { outcome := rest.outcome.map (emission.blocks ++ ·)
      admitted := rest.admitted
      events := emission.events ++ rest.events }

/-- An extraction that does not fail emits its first portion and then does not fail on the
others. -/
theorem Extraction.ofPortions_cons_ok {first : Except ExtractionFailure Portion}
    {later : List (Except ExtractionFailure Portion)} {admitted : Admitted} {blocks : List Block}
    (h : (ofPortions (first :: later) admitted).outcome = .ok blocks) :
    ∃ portion rest, first = .ok portion ∧
      (ofPortions later (portion.emit admitted).admitted).outcome = .ok rest ∧
      blocks = (portion.emit admitted).blocks ++ rest := by
  cases first with
  | error failure => exact absurd h (by simp [ofPortions])
  | ok portion =>
    rw [ofPortions] at h
    dsimp only at h
    cases hrest : (ofPortions later (portion.emit admitted).admitted).outcome with
    | error failure =>
      rw [hrest] at h
      exact absurd h (by simp [Except.map])
    | ok rest =>
      rw [hrest] at h
      exact ⟨portion, rest, rfl, hrest, (Except.ok.inj h).symm⟩

namespace SourceFile

/-- The number of a node's first line, counted from one. -/
def startLine (node : Cursor) : Int := node.info.startRow + 1

/-- The number of a node's last line, counted from one. -/
def endLine (node : Cursor) : Int := node.info.endRow + 1

/-- The block that is a whole node. -/
def nodeBlock (file : SourceFile) (category : Category) (node : Cursor)
    (name doc signature : Option Text) : Block :=
  { category := category.label
    name := name
    file := file.path
    startLine := startLine node
    endLine := endLine node
    code := node.text
    modulePath := file.modulePath
    signature := signature
    doc := doc }

/-- The span of a node's lines. -/
def nodeSpan (file : SourceFile) (category : Category) (node : Cursor)
    (name doc signature : Option Text) : Span :=
  { file := file.path
    modulePath := file.modulePath
    baseType := category.label ++ "_chunk".toList
    startLine := startLine node
    name := name
    doc := doc
    signature := signature }

/-- The name of a variable that has none. -/
def unknownVariable : Text := "unknown_variable".toList

/-- The portion of a variable in a declaration that the comment `doc` documents.  A variable whose
text is below the smallest size has none. -/
def variablePortion (file : SourceFile) (limits : Limits) (doc : Option Text) (node : Cursor) :
    List (Except ExtractionFailure Portion) :=
  match node.childByField? "name" with
  | .error refusal => [.error (.lookupRefused refusal)]
  | .ok nameNode =>
    let name := (nameNode.map Cursor.text).getD unknownVariable
    match Sizing.ofLimits? limits with
    | none => [.error .thresholdOverflow]
    | some sizing =>
      if sizing.exceeds node.text.length then
        [.ok (.packed sizing (file.nodeSpan .fileVariable node (some name) doc none) node.text)]
      else if limits.minChars ≤ node.text.length then
        [.ok (.whole (file.nodeBlock .fileVariable node (some name) doc none))]
      else []

/-- The portions of a declaration: one for each of its variables. -/
def declarationPortions (file : SourceFile) (limits : Limits) (statement : Cursor) :
    List (Except ExtractionFailure Portion) :=
  (statement.children.filter fun node => node.kind = "variable_declarator").flatMap
    (file.variablePortion limits statement.documentation?)

/-- The portion of any other node.  A node without text has none. -/
def nodePortion (file : SourceFile) (limits : Limits) (category : Category) (node : Cursor) :
    List (Except ExtractionFailure Portion) :=
  if node.text.isEmpty then []
  else
    let described : Except LookupRefusal (Option Text × Option Text) := do
      let name ← node.name?
      let signature ← node.signature? file.octets
      return (name, signature)
    match described with
    | .error refusal => [.error (.lookupRefused refusal)]
    | .ok (name, signature) =>
      match Sizing.ofLimits? limits with
      | none => [.error .thresholdOverflow]
      | some sizing =>
        let doc := node.documentation?
        if sizing.exceeds node.text.length then
          [.ok (.packed sizing (file.nodeSpan category node name doc signature) node.text)]
        else [.ok (.whole (file.nodeBlock category node name doc signature))]

/-- The portions of a capture.  A capture that is no block has none. -/
def capturePortions (file : SourceFile) (limits : Limits) (capture : Capture) :
    List (Except ExtractionFailure Portion) :=
  match Category.ofNode? capture.kind capture.node with
  | none => []
  | some .fileVariable => file.declarationPortions limits capture.node
  | some category => file.nodePortion limits category capture.node

end SourceFile

/-- The blocks of a file, given what a query captured in it. -/
def extractBlocks (limits : Limits) (rootPrefix path content : Text) (captures : List Capture)
    (admitted : Admitted) : Extraction :=
  let modulePath := Path.modulePath path rootPrefix
  if captures.isEmpty then
    let started := Event.fallbackChunking path content.length
    match Chunking.chunkFallback limits path modulePath content admitted with
    | none => ⟨.error .thresholdOverflow, admitted, [started]⟩
    | some emission => ⟨.ok emission.blocks, emission.admitted, started :: emission.events⟩
  else
    let file : SourceFile := ⟨path, modulePath, Utf8.encode content⟩
    Extraction.ofPortions (captures.flatMap (file.capturePortions limits)) admitted

end SourceBlocks
