import SourceBlocks.Text.Basic

/-!
# Wildcard patterns

Patterns for whole names.  A star stands for any characters, a question mark for any single one,
and a bracketed set for one of its members; a set that starts with an exclamation mark stands for
any other character.  A bracket that is never closed stands for itself.
-/

namespace SourceBlocks

/-- A member of a bracketed set. -/
inductive Wildcard.Member where
  | single (c : Char)
  | range (first last : Char)
  deriving DecidableEq, Repr

/-- One element of a wildcard pattern. -/
inductive Wildcard.Token where
  | anyRun
  | anyOne
  | literal (c : Char)
  | set (negated : Bool) (members : List Wildcard.Member)
  deriving DecidableEq, Repr

/-- A wildcard pattern. -/
structure Wildcard where
  tokens : List Wildcard.Token
  deriving DecidableEq, Repr

namespace Wildcard

/-- The members that a set's text writes.  A hyphen between two characters makes them the ends of
a range. -/
def members : Text → List Member
  | first :: '-' :: last :: rest => .range first last :: members rest
  | c :: rest => .single c :: members rest
  | [] => []

/-- Whether a character is a member.  A range whose ends are reversed holds nothing. -/
def Member.holds (c : Char) : Member → Bool
  | single d => decide (c = d)
  | range first last => decide (first ≤ c ∧ c ≤ last)

/-- Whether a member is a range whose ends are reversed. -/
def Member.isVoid : Member → Bool
  | single _ => false
  | range first last => decide (last < first)

/-- The set that a text between brackets writes.  The exclamation mark that negates a set may
follow ranges that hold nothing; one that begins a range after them still negates, and the hyphen
then is a member. -/
def setOf (t : Text) : Token :=
  match t with
  | '!' :: rest => .set true (members rest)
  | _ =>
    match (members t).dropWhile Member.isVoid with
    | .single '!' :: rest => .set true rest
    | .range '!' last :: rest => .set true (.single '-' :: .single last :: rest)
    | rest => .set false rest

/-- The first character of a text, if it is `c`. -/
def leading (c : Char) (t : Text) : Text :=
  (t.takeWhile (· = c)).take 1

/-- The text of a set and the text after its closing bracket.  A closing bracket that comes first,
or right after the mark of negation, is a member. -/
def splitSet? (t : Text) : Option (Text × Text) :=
  let mark := leading '!' t
  let rest := t.drop mark.length
  let bracket := leading ']' rest
  let rest := rest.drop bracket.length
  let inside := rest.takeWhile (· ≠ ']')
  if inside.length < rest.length then
    some (mark ++ bracket ++ inside, rest.drop (inside.length + 1))
  else none

theorem splitSet?_length {t inside rest : Text} (h : splitSet? t = some (inside, rest)) :
    rest.length < t.length := by
  unfold splitSet? at h
  simp only at h
  split at h
  · next hlt =>
    obtain ⟨-, rfl⟩ := Prod.mk.inj (Option.some.inj h)
    simp only [List.length_drop] at hlt ⊢
    omega
  · cases h

/-- The elements of a pattern's text. -/
def tokenize : Text → List Token
  | [] => []
  | c :: rest =>
    if c = '*' then .anyRun :: tokenize rest
    else if c = '?' then .anyOne :: tokenize rest
    else if c = '[' then
      match _h : splitSet? rest with
      | some (inside, after) => setOf inside :: tokenize after
      | none => .literal c :: tokenize rest
    else .literal c :: tokenize rest
  termination_by t => t.length
  decreasing_by
    all_goals simp only [List.length_cons]
    all_goals first
      | omega
      | have := splitSet?_length _h
        omega

/-- The pattern that a text writes. -/
def ofText (t : Text) : Wildcard :=
  ⟨tokenize t⟩

/-- Whether an element that stands for one character stands for `c`. -/
def Token.accepts : Token → Char → Bool
  | .anyRun, _ => false
  | .anyOne, _ => true
  | .literal d, c => decide (c = d)
  | .set negated members, c => (members.any (Member.holds c)) != negated

/-- The ways to leave off the front of a text, the whole text first. -/
def tails : Text → List Text
  | [] => [[]]
  | c :: rest => (c :: rest) :: tails rest

/-- What may remain of a name after one more element, given what may remain before it.  Remainders
are listed from the longest to the shortest, so a star adds every ending of the first one. -/
def advance (remainders : List Text) : Token → List Text
  | .anyRun =>
    match remainders with
    | [] => []
    | longest :: _ => tails longest
  | token =>
    remainders.filterMap fun
      | [] => none
      | c :: rest => if token.accepts c then some rest else none

/-- Whether a pattern stands for a whole name. -/
def isMatch (w : Wildcard) (name : Text) : Bool :=
  (w.tokens.foldl advance [name]).any List.isEmpty

end Wildcard

end SourceBlocks
