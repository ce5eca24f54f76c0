import SourceBlocks.ParseTree.Cursor

/-!
# Categories of blocks

Which syntax nodes become blocks, and of what category.  Variables count only at file scope, and a
function definition in the body of a class is a method.
-/

namespace SourceBlocks

/-- The category of a block that is a syntax node. -/
inductive Category where
  | function
  | method
  | classDefinition
  | interface
  | fileVariable
  | structDefinition
  | enumeration
  deriving DecidableEq, Repr

namespace Category

/-- The name of a category. -/
def label : Category → Text
  | function => "function".toList
  | method => "method".toList
  | classDefinition => "class".toList
  | interface => "interface".toList
  | fileVariable => "variable".toList
  | structDefinition => "struct".toList
  | enumeration => "enum".toList

end Category

namespace Kind

/-- Statements that declare variables. -/
def declarations : List String :=
  ["lexical_declaration", "variable_declaration"]

/-- Nodes that have a signature. -/
def functionLike : List String :=
  ["arrow_function", "function_declaration", "function_definition",
   "generator_function_declaration", "method_definition"]

/-- Comments. -/
def comments : List String :=
  ["block_comment", "comment", "line_comment"]

/-- Nodes that are a whole file, unless the kind ends in `_file`. -/
def wholeFiles : List String :=
  ["program", "module", "source_file"]

/-- The bodies in which the definitions of a class stand. -/
def classBodies : List String :=
  ["block", "class_body"]

end Kind

namespace Cursor

/-- Whether the node declares variables. -/
def isDeclaration (c : Cursor) : Bool := Kind.declarations.contains c.kind

/-- Whether the node is a whole file. -/
def isFileScope (c : Cursor) : Bool :=
  Kind.wholeFiles.contains c.kind || "_file".toList.isSuffixOf c.kind.toList

/-- Whether the node stands at file scope. -/
def isAtFileScope (c : Cursor) : Bool :=
  (c.parent?.map isFileScope).getD false

/-- The parent of the node, past one decoration. -/
def undecoratedParent? (c : Cursor) : Option Cursor :=
  c.parent?.bind fun parent =>
    if parent.kind = "decorated_definition" then parent.parent? else some parent

/-- Whether the node is a definition in the body of a class. -/
def isInClassBody (c : Cursor) : Bool :=
  match c.undecoratedParent? with
  | none => false
  | some body =>
    Kind.classBodies.contains body.kind
      && ((body.parent?.map fun owner => decide (owner.kind = "class_definition")).getD false)

end Cursor

/-- The category of a node that was captured as a `kind`, or none if it is no block. -/
def Category.ofNode? (kind : String) (c : Cursor) : Option Category :=
  match kind with
  | "function_declaration" | "generator_function_declaration" | "arrow_function" => some function
  | "function_definition" => some (if c.isInClassBody then method else function)
  | "method_definition" | "method_declaration" => some method
  | "class_declaration" | "abstract_class_declaration" | "class_definition" =>
    some classDefinition
  | "interface_declaration" | "type_alias_declaration" => some interface
  | "lexical_declaration" | "variable_declaration" =>
    if c.isAtFileScope then some fileVariable else none
  | "struct_declaration" => some structDefinition
  | "enum_declaration" => some enumeration
  | _ => none

end SourceBlocks
