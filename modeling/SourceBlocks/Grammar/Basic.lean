import SourceBlocks.Capture
import SourceBlocks.Event
import SourceBlocks.Extension
import SourceBlocks.Grammar.Query

/-!
# Grammars

A grammar parses the files of one language and captures the nodes that may become blocks.  The
bundled grammars are described by the package that holds the language's parser and by the query
to run; loading one finds the language and compiles the query.
-/

namespace SourceBlocks

/-- What extraction needs of a language.  A parser or a query that fails does so with a message. -/
structure Grammar where
  name : Text
  extensions : List Text
  parse : Text → Except Text ParseTree
  query : ParseTree → Except Text (List Capture)

namespace Grammar

/-- Whether a grammar handles an extension, in any spelling. -/
def supports (g : Grammar) (extension : Text) : Bool :=
  g.extensions.contains (Extension.normalize extension)

/-- The parser of a language: a tree for every text. -/
abbrev Parser := Text → ParseTree

/-- A language that an installed package provides under an entry name, with the kinds of nodes
that queries may name. -/
structure Language where
  package : Text
  entry : Text
  nodeKinds : List Text

/-- Where a grammar's language is found and which query it runs. -/
structure Spec where
  name : Text
  package : Text
  entry : Text
  extensions : List Text
  query : Text

/-- Why a grammar cannot be loaded. -/
inductive LoadError where
  | notInstalled (grammar package : Text)
  | queryRejected (grammar : Text)
  deriving DecidableEq, Repr

/-- The sentence that reports a grammar that cannot be loaded. -/
def LoadError.message : LoadError → Text
  | notInstalled grammar package =>
    "Grammar '".toList ++ grammar ++ "' is not installed. Install it via `pip install ".toList
      ++ package.map (fun c => if c = '_' then '-' else c) ++ "`.".toList
  | queryRejected grammar =>
    "Query for grammar '".toList ++ grammar ++ "' failed to compile".toList

/-- The query of the JavaScript grammar. -/
def javascriptQuery : Text :=
  "(function_declaration) @function
(generator_function_declaration) @function
(arrow_function) @function
(class_declaration) @class
(method_definition) @method
(lexical_declaration) @variable
(variable_declaration) @variable
".toList

/-- The query of the TypeScript grammars. -/
def typescriptQuery : Text :=
  javascriptQuery ++ "(abstract_class_declaration) @class
(interface_declaration) @interface
(type_alias_declaration) @interface
(enum_declaration) @enum
".toList

/-- The query of the Python grammar. -/
def pythonQuery : Text :=
  "(function_definition) @function
(class_definition) @class
".toList

/-- The descriptions of the bundled grammars. -/
def bundled : List Spec :=
  [{ name := "javascript".toList
     package := "tree_sitter_javascript".toList
     entry := "language".toList
     extensions := [".js".toList, ".jsx".toList, ".mjs".toList, ".cjs".toList]
     query := javascriptQuery },
   { name := "typescript".toList
     package := "tree_sitter_typescript".toList
     entry := "language_typescript".toList
     extensions := [".ts".toList]
     query := typescriptQuery },
   { name := "tsx".toList
     package := "tree_sitter_typescript".toList
     entry := "language_tsx".toList
     extensions := [".tsx".toList]
     query := typescriptQuery },
   { name := "python".toList
     package := "tree_sitter_python".toList
     entry := "language".toList
     extensions := [".py".toList]
     query := pythonQuery }]

/-- The patterns of a description's query. -/
def Spec.patterns? (spec : Spec) : Option (List (Text × Text)) :=
  Query.ofText? spec.query

/-- The installed languages: those of the bundled grammars.  Each knows the kinds that its grammar
captures, and identifiers. -/
def installed : List Language :=
  bundled.map fun spec =>
    { package := spec.package
      entry := spec.entry
      nodeKinds := "identifier".toList :: ((spec.patterns?.getD []).map Prod.fst) }

/-- The installed language that a description names. -/
def Spec.language? (spec : Spec) : Option Language :=
  installed.find? fun language =>
    language.package = spec.package && language.entry = spec.entry

/-- Loads a described grammar, whose language has the given parser. -/
def Spec.load (parser : Parser) (spec : Spec) : Except LoadError Grammar :=
  match spec.language? with
  | none => .error (.notInstalled spec.name spec.package)
  | some language =>
    match spec.patterns? with
    | none => .error (.queryRejected spec.name)
    | some patterns =>
      if patterns.all fun (kind, _) => language.nodeKinds.contains kind then
        let kinds := patterns.map fun (kind, name) => (String.ofList kind, String.ofList name)
        .ok
          { name := spec.name
            extensions := spec.extensions
            parse := fun content => .ok (parser content)
            query := fun tree => .ok (Capture.ofKinds kinds tree) }
      else .error (.queryRejected spec.name)

/-- What a successful load reports. -/
def Spec.loadReport (spec : Spec) : Event :=
  .grammarLoaded spec.name spec.extensions

/-- The bundled descriptions by extension. -/
def byExtension : List (Text × Spec) :=
  bundled.flatMap fun spec => spec.extensions.map (·, spec)

end Grammar

end SourceBlocks
