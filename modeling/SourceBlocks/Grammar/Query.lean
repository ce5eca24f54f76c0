import SourceBlocks.Text.Basic

/-!
# Capture queries

A capture query lists kinds of syntax nodes, each with the name that its nodes are captured under,
in the form `(kind) @name`.
-/

namespace SourceBlocks.Query

/-- An element of a query's text. -/
inductive Token where
  | opening
  | closing
  | kind (name : Text)
  | capture (name : Text)
  deriving DecidableEq, Repr

/-- Whether a character may stand in a kind or in a capture name. -/
def isNameChar (c : Char) : Bool :=
  c.isAlphanum || c = '_' || c = '-' || c = '.'

/-- Whether a character separates the elements of a query. -/
def isSeparator (c : Char) : Bool :=
  Text.isAsciiBlank c

/-- The elements of a query's text; `word` is the word being read, in reverse.  A character that
starts no element makes the text unreadable. -/
def tokenize (word : Text) : Text → Option (List Token)
  | [] => some (finish word)
  | c :: rest =>
    if isNameChar c then tokenize (c :: word) rest
    else if c = '@' && word.isEmpty then tokenize [c] rest
    else
      let token? : Option (List Token) :=
        if c = '(' then some [.opening]
        else if c = ')' then some [.closing]
        else if isSeparator c then some []
        else none
      match token?, tokenize [] rest with
      | some token, some tokens => some (finish word ++ token ++ tokens)
      | _, _ => none
where
  /-- The element that a word, in reverse, writes. -/
  finish (word : Text) : List Token :=
    match word.reverse with
    | [] => []
    | '@' :: name => [.capture name]
    | name => [.kind name]

/-- The patterns that a list of elements makes up. -/
def patterns? : List Token → Option (List (Text × Text))
  | [] => some []
  | .opening :: .kind kind :: .closing :: .capture name :: rest =>
    (patterns? rest).map ((kind, name) :: ·)
  | _ => none

/-- The patterns that a query's text writes. -/
def ofText? (t : Text) : Option (List (Text × Text)) :=
  (tokenize [] t).bind patterns?

end SourceBlocks.Query
