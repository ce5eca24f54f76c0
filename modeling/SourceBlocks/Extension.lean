import SourceBlocks.Path
import SourceBlocks.Text.Case

/-!
# File extensions

The catalogue of extensions that indexing knows, and the normal form in which extensions are
compared: lower case, with the leading dot.
-/

namespace SourceBlocks.Extension

/-- The extensions of all languages that indexing knows. -/
def recognized : List Text :=
  ["tla", "js", "jsx", "ts", "vue", "tsx", "py", "rs", "go", "c", "h", "cpp", "hpp", "cs", "rb",
   "java", "php", "swift", "sol", "kt", "kts", "ex", "exs", "el", "html", "htm", "md", "markdown",
   "json", "css", "rdl", "ml", "mli", "lua", "scala", "toml", "zig", "elm", "ejs", "erb"].map
    fun letters => '.' :: letters.toList

/-- The extensions of prose documents. -/
def documents : List Text :=
  [".md".toList, ".markdown".toList]

/-- The extensions that discovery keeps: all but those of documents. -/
def scanned : List Text :=
  recognized.filter fun extension => !documents.contains extension

/-- The extension of a path in lower case, or the empty text. -/
def ofPath (path : Text) : Text :=
  Text.lower (Path.extension path)

/-- The normal form of an extension that is given bare, with its dot, or at the end of a path. -/
def normalize (given : Text) : Text :=
  match Path.extension given with
  | [] => Text.lower (if given.head? = some '.' then given else '.' :: given)
  | extension => Text.lower extension

/-- Whether discovery keeps files of this path's extension. -/
def isScannable (path : Text) : Bool :=
  scanned.contains (ofPath path)

end SourceBlocks.Extension
