/-!
# Text

Text is the list of its code points, so that lengths, cuts and positions all count code points.
The module holds the operations on lines, the blanks that trimming removes, and the decimal
spelling of whole numbers.
-/

namespace SourceBlocks

/-- A text, as the list of its code points. -/
abbrev Text := List Char

namespace Text

/-- Whether a code point lies in one of the given inclusive ranges. -/
def inRanges (ranges : List (Nat × Nat)) (c : Char) : Bool :=
  ranges.any fun (first, last) => decide (first ≤ c.toNat ∧ c.toNat ≤ last)

/-- Ranges of the code points that count as white space. -/
def blankRanges : List (Nat × Nat) :=
  [(0x9, 0xD), (0x1C, 0x20), (0x85, 0x85), (0xA0, 0xA0), (0x1680, 0x1680), (0x2000, 0x200A),
   (0x2028, 0x2029), (0x202F, 0x202F), (0x205F, 0x205F), (0x3000, 0x3000)]

/-- White space of any script.  The zero-width space and the byte order mark are none. -/
def isBlank (c : Char) : Bool :=
  inRanges blankRanges c

/-- White space of any script but the separators of information units, U+001C to U+001F. -/
def isSpace (c : Char) : Bool :=
  isBlank c && !decide (0x1C ≤ c.toNat ∧ c.toNat ≤ 0x1F)

/-- The six white-space characters of ASCII text. -/
def isAsciiBlank (c : Char) : Bool :=
  c = ' ' || decide (0x9 ≤ c.toNat ∧ c.toNat ≤ 0xD)

/-- Removes the characters that satisfy `p` from both ends. -/
def trimBy (p : Char → Bool) (t : Text) : Text :=
  ((t.dropWhile p).reverse.dropWhile p).reverse

/-- Removes white space from both ends. -/
def trim (t : Text) : Text :=
  trimBy isBlank t

/-- The lines of a text, cut at each line feed and at nothing else.  The empty text is one empty
line. -/
def lines : Text → List Text
  | [] => [[]]
  | c :: rest =>
    if c = '\n' then [] :: lines rest
    else
      match lines rest with
      | [] => [[c]]
      | line :: later => (c :: line) :: later

/-- Lines put back together with line feeds between them. -/
def joinLines : List Text → Text
  | [] => []
  | [line] => line
  | line :: next :: later => line ++ '\n' :: joinLines (next :: later)

/-- The text before the first occurrence of a character, if there is one. -/
def before? (stop : Char) (t : Text) : Option Text :=
  if t.contains stop then some (t.takeWhile (· ≠ stop)) else none

/-- Cuts a text to a number of code points.  A negative count says how many to leave off at the
end. -/
def truncate (t : Text) (count : Int) : Text :=
  if 0 ≤ count then t.take count.toNat else t.take (t.length - (-count).toNat)

/-- The decimal spelling of a natural number. -/
def ofNat (n : Nat) : Text :=
  Nat.toDigits 10 n

/-- The decimal spelling of an integer. -/
def ofInt : Int → Text
  | .ofNat n => ofNat n
  | .negSucc n => '-' :: ofNat (n + 1)

/-- The order of texts by code points. -/
def le : Text → Text → Bool
  | [], _ => true
  | _ :: _, [] => false
  | c :: s, d :: t => c.toNat < d.toNat || (c = d && le s t)

theorem lines_ne_nil (t : Text) : lines t ≠ [] := by
  cases t with
  | nil => simp [lines]
  | cons c rest =>
    simp only [lines]
    split
    · simp
    · split <;> simp

/-- Cutting a text into lines loses nothing. -/
theorem joinLines_lines (t : Text) : joinLines (lines t) = t := by
  induction t with
  | nil => rfl
  | cons c rest ih =>
    simp only [lines]
    split
    · next hc =>
      cases hl : lines rest with
      | nil => exact absurd hl (lines_ne_nil rest)
      | cons line later => simp [joinLines, ← hl, ih, hc]
    · split
      · next hl => exact absurd hl (lines_ne_nil rest)
      · next line later hl =>
        rw [hl] at ih
        cases later with
        | nil => simp_all [joinLines]
        | cons next later => simp_all [joinLines]

end Text

end SourceBlocks
