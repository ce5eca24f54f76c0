import SourceBlocks.Category

/-!
# Descriptions of nodes

The name, the documentation and the signature of a syntax node, read off the tree.  The field
names are those that the grammars of the C family share.
-/

namespace SourceBlocks.Cursor

/-- The name of an arrow function that is bound to nothing. -/
def anonymousArrowFunction : Text := "anonymous_arrow_function".toList

/-- The node that holds the name of a node, other than an arrow function's binding. -/
def nameNode? (c : Cursor) : Except LookupRefusal (Option Cursor) := do
  match ← c.childByField? "name" with
  | some node => return some node
  | none =>
    if c.isDeclaration then
      match c.firstDescendant? "variable_declarator" with
      | none => return none
      | some declarator =>
        match ← declarator.childByField? "name" with
        | some node => return some node
        | none => return declarator.firstDescendant? "identifier"
    else if c.kind = "function_declaration" then return c.firstDescendant? "identifier"
    else if c.kind = "type_identifier" then return some c
    else return none

/-- The name that an arrow function is bound to. -/
def bindingName (c : Cursor) : Except LookupRefusal Text := do
  match c.parent? with
  | none => return anonymousArrowFunction
  | some parent =>
    if parent.kind = "variable_declarator" || parent.kind = "assignment_expression" then
      match ← parent.childByField? "name" with
      | some target => return target.text
      | none =>
        match ← parent.childByField? "left" with
        | some target => return target.text
        | none => return anonymousArrowFunction
    else return anonymousArrowFunction

/-- The name of a node: the text of its name node, or the binding of an arrow function. -/
def name? (c : Cursor) : Except LookupRefusal (Option Text) := do
  let node ← c.nameNode?
  if c.kind = "arrow_function" then return some (← c.bindingName)
  else return node.map text

/-- The text of a node that is a comment. -/
def commentText? (c : Cursor) : Option Text :=
  if Kind.comments.contains c.kind then some c.text else none

/-- The comment just before a node.  A node without an earlier named sibling has the comment just
before its parent. -/
def documentation? (c : Cursor) : Option Text :=
  match c.previousNamedSibling? with
  | some previous => previous.commentText?
  | none => (c.parent?.bind previousNamedSibling?).bind commentText?

/-- The source text from the start of one node to the start of another, trimmed. -/
def header (source : Octets) (c stop : Cursor) : Text :=
  Text.trim (Utf8.decodeLossy (source.slice c.info.startByte stop.info.startByte))

/-- A header without an opening brace at its end. -/
def withoutBrace (header : Text) : Text :=
  if header.getLast? = some '\x7b' then Text.trim header.dropLast else header

/-- The header of a function-like node, without its body.  `source` is the file's octets. -/
def signature? (source : Octets) (c : Cursor) : Except LookupRefusal (Option Text) := do
  if !Kind.functionLike.contains c.kind then return none
  match ← c.childByField? "body" with
  | some body => return some (withoutBrace (c.header source body))
  | none =>
    let arrow :=
      if c.kind = "arrow_function" then c.children.find? fun node => node.kind = "=>" else none
    match arrow with
    | some arrow => return some (c.header source arrow)
    | none => return some (Text.trim ((Text.before? '\x7b' c.text).getD c.text))

end SourceBlocks.Cursor
