import SourceBlocks.Text.Basic

/-!
# Paths

Paths are texts whose components are separated by slashes; a backslash is an ordinary character.
An extension begins at the last dot of the last component, unless nothing but dots stands before
it there.
-/

namespace SourceBlocks.Path

/-- The last component of a path, read backwards. -/
def reversedName (path : Text) : Text :=
  path.reverse.takeWhile (· ≠ '/')

/-- The extension of a path with its dot, or the empty text. -/
def extension (path : Text) : Text :=
  let name := reversedName path
  let letters := name.takeWhile (· ≠ '.')
  let stem := name.drop (letters.length + 1)
  if letters.length < name.length && stem.any (· ≠ '.') then '.' :: letters.reverse else []

/-- A path without its extension. -/
def stem (path : Text) : Text :=
  path.take (path.length - (extension path).length)

/-- The suffix of a file name: from its last dot on, unless the dot is the first or the last
character of the name. -/
def suffix (name : Text) : Text :=
  let name := name.reverse
  let letters := name.takeWhile (· ≠ '.')
  let stem := name.drop (letters.length + 1)
  if letters.isEmpty || stem.isEmpty then [] else '.' :: letters.reverse

/-- The pieces between slashes, with the empty ones. -/
def pieces : Text → List Text
  | [] => [[]]
  | c :: rest =>
    if c = '/' then [] :: pieces rest
    else
      match pieces rest with
      | [] => [[c]]
      | piece :: later => (c :: piece) :: later

/-- The components of a path.  Empty ones and single dots name nothing. -/
def components (path : Text) : List Text :=
  (pieces path).filter fun piece => !piece.isEmpty && decide (piece ≠ ['.'])

/-- Components with slashes between them. -/
def ofComponents : List Text → Text
  | [] => []
  | [piece] => piece
  | piece :: next :: later => piece ++ '/' :: ofComponents (next :: later)

/-- The slashes that make a path absolute.  Exactly two are kept as two, any more are one. -/
def root : Text → Text
  | '/' :: '/' :: '/' :: _ => ['/']
  | '/' :: '/' :: _ => ['/', '/']
  | '/' :: _ => ['/']
  | _ => []

/-- The normal form of a path: single slashes, no single dots and no slash at the end.  Double
dots stay, since what they name depends on links. -/
def normalize (path : Text) : Text :=
  match root path ++ ofComponents (components path) with
  | [] => ['.']
  | normal => normal

/-- Whether a path may be handed to a file system, which knows no null character. -/
def isProper (path : Text) : Bool :=
  !path.contains '\x00'

/-- The sentence that reports a path that is not proper. -/
def improperMessage : Text :=
  "embedded null byte".toList

/-- A relative path below a directory, both in normal form. -/
def join (directory relative : Text) : Text :=
  if directory = ['.'] then relative
  else if directory.getLast? = some '/' then directory ++ relative
  else directory ++ '/' :: relative

/-- A path as a module name: without the root directory's prefix and without its extension. -/
def modulePath (path rootPrefix : Text) : Text :=
  stem (if !rootPrefix.isEmpty && rootPrefix.isPrefixOf path then path.drop rootPrefix.length
    else path)

end SourceBlocks.Path
