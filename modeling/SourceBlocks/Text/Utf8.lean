import SourceBlocks.Text.Basic

/-!
# UTF-8

The encoding of text as octets and its two readings.  Both readings take one well-formed sequence
after the other.  Where none starts, the longest beginning of one (or else a single octet) is
ill formed: the lenient reading puts one replacement character for it, the strict reading stops
and reports it.
-/

namespace SourceBlocks

/-- An octet string. -/
abbrev Octets := List UInt8

namespace Utf8

/-- The octets of one character. -/
def encodeChar (c : Char) : Octets :=
  let n := c.toNat
  if n < 0x80 then [n.toUInt8]
  else if n < 0x800 then [(0xC0 + n / 0x40).toUInt8, (0x80 + n % 0x40).toUInt8]
  else if n < 0x10000 then
    [(0xE0 + n / 0x1000).toUInt8, (0x80 + n / 0x40 % 0x40).toUInt8, (0x80 + n % 0x40).toUInt8]
  else
    [(0xF0 + n / 0x40000).toUInt8, (0x80 + n / 0x1000 % 0x40).toUInt8,
      (0x80 + n / 0x40 % 0x40).toUInt8, (0x80 + n % 0x40).toUInt8]

/-- The octets of a text. -/
def encode (t : Text) : Octets :=
  t.flatMap encodeChar

/-- The number of octets that a text takes up. -/
def size (t : Text) : Nat :=
  (encode t).length

/-- Why a sequence of octets is ill formed. -/
inductive Fault where
  /-- No sequence starts with this octet. -/
  | invalidStart
  /-- A sequence began well and an octet follows that cannot continue it. -/
  | invalidContinuation
  /-- The input ended inside a sequence. -/
  | unexpectedEnd
  deriving DecidableEq, Repr

/-- What the front of a non-empty octet string is: a character with the octets after it, or an
ill-formed sequence of `length` octets. -/
inductive Front where
  | char (c : Char) (rest : Octets)
  | fault (reason : Fault) (length : Nat) (rest : Octets)

/-- Whether an octet is one of the sixty-four that continue a sequence. -/
def isContinuation (b : UInt8) : Bool :=
  decide (0x80 ≤ b.toNat ∧ b.toNat ≤ 0xBF)

/-- Whether `second` may follow the leading octet `lead`.  The bounds keep out overlong forms,
surrogates and numbers past the last code point. -/
def canFollow (lead second : UInt8) : Bool :=
  if lead.toNat = 0xE0 then decide (0xA0 ≤ second.toNat ∧ second.toNat ≤ 0xBF)
  else if lead.toNat = 0xED then decide (0x80 ≤ second.toNat ∧ second.toNat ≤ 0x9F)
  else if lead.toNat = 0xF0 then decide (0x90 ≤ second.toNat ∧ second.toNat ≤ 0xBF)
  else if lead.toNat = 0xF4 then decide (0x80 ≤ second.toNat ∧ second.toNat ≤ 0x8F)
  else isContinuation second

/-- The number of octets that a leading octet announces, or zero if it leads no sequence. -/
def announced (lead : UInt8) : Nat :=
  if lead.toNat < 0x80 then 1
  else if lead.toNat < 0xC2 then 0
  else if lead.toNat < 0xE0 then 2
  else if lead.toNat < 0xF0 then 3
  else if lead.toNat < 0xF5 then 4
  else 0

/-- The six low bits of a continuation octet. -/
def payload (b : UInt8) : Nat :=
  b.toNat % 0x40

/-- Reads the front of the string `lead :: rest`. -/
def front (lead : UInt8) (rest : Octets) : Front :=
  match announced lead with
  | 1 => .char (Char.ofNat lead.toNat) rest
  | 2 =>
    match rest with
    | [] => .fault .unexpectedEnd 1 []
    | b :: rest' =>
      if canFollow lead b then .char (Char.ofNat (lead.toNat % 0x20 * 0x40 + payload b)) rest'
      else .fault .invalidContinuation 1 rest
  | 3 =>
    match rest with
    | [] => .fault .unexpectedEnd 1 []
    | b :: rest' =>
      if canFollow lead b then
        match rest' with
        | [] => .fault .unexpectedEnd 2 []
        | c :: rest'' =>
          if isContinuation c then
            .char (Char.ofNat (lead.toNat % 0x10 * 0x1000 + payload b * 0x40 + payload c)) rest''
          else .fault .invalidContinuation 2 rest'
      else .fault .invalidContinuation 1 rest
  | 4 =>
    match rest with
    | [] => .fault .unexpectedEnd 1 []
    | b :: rest' =>
      if canFollow lead b then
        match rest' with
        | [] => .fault .unexpectedEnd 2 []
        | c :: rest'' =>
          if isContinuation c then
            match rest'' with
            | [] => .fault .unexpectedEnd 3 []
            | d :: rest''' =>
              if isContinuation d then
                .char (Char.ofNat (lead.toNat % 0x8 * 0x40000 + payload b * 0x1000
                  + payload c * 0x40 + payload d)) rest'''
              else .fault .invalidContinuation 3 rest''
          else .fault .invalidContinuation 2 rest'
      else .fault .invalidContinuation 1 rest
  | _ => .fault .invalidStart 1 rest

/-- The octets that the front leaves unread. -/
def Front.rest : Front → Octets
  | .char _ rest => rest
  | .fault _ _ rest => rest

theorem front_rest_length (lead : UInt8) (rest : Octets) :
    (front lead rest).rest.length ≤ rest.length := by
  unfold front
  repeat' split
  all_goals simp_all [Front.rest]
  all_goals omega

/-- The character that stands for an ill-formed sequence. -/
def replacement : Char := '\uFFFD'

/-- The lenient reading: one replacement character for each ill-formed sequence. -/
def decodeLossy : Octets → Text
  | [] => []
  | lead :: rest =>
    match _h : front lead rest with
    | .char c after => c :: decodeLossy after
    | .fault _ _ after => replacement :: decodeLossy after
  termination_by octets => octets.length
  decreasing_by
    all_goals
      have := front_rest_length lead rest
      simp only [_h, Front.rest] at this
      simp only [List.length_cons]
      omega

/-- An ill-formed sequence found by the strict reading: the octets and where they begin. -/
structure Malformed where
  reason : Fault
  octet : UInt8
  position : Nat
  length : Nat
  deriving DecidableEq, Repr

/-- The strict reading of octets that begin at `position`. -/
def decodeFrom (position : Nat) : Octets → Except Malformed Text
  | [] => .ok []
  | lead :: rest =>
    match _h : front lead rest with
    | .char c after => (decodeFrom (position + announced lead) after).map (c :: ·)
    | .fault reason length _ => .error ⟨reason, lead, position, length⟩
  termination_by octets => octets.length
  decreasing_by
    have := front_rest_length lead rest
    simp only [_h, Front.rest] at this
    simp only [List.length_cons]
    omega

/-- The strict reading. -/
def decode (octets : Octets) : Except Malformed Text :=
  decodeFrom 0 octets

end Utf8

end SourceBlocks
