import SourceBlocks.ParseTree.Basic

/-!
# Octets of a text

What the encoding of a text keeps: it can be read back, it holds an octet 0x0A for each line feed,
and a cut between characters is a cut between their octets.  Of ill-formed octets the lenient reading
still keeps the line feeds.
-/

namespace SourceBlocks.Utf8

theorem toNat_toUInt8 {n : Nat} (h : n < 256) : n.toUInt8.toNat = n := by
  simp [Nat.toUInt8, UInt8.toNat_ofNat', Nat.mod_eq_of_lt h]

/-- A character is no surrogate and not past the last code point. -/
theorem toNat_valid (c : Char) :
    c.toNat < 0xD800 ∨ (0xDFFF < c.toNat ∧ c.toNat < 0x110000) :=
  c.valid

/-! ## Reading back -/

theorem front_one_octet {c : Char} (rest : Octets) (hc : c.toNat < 0x80) :
    front c.toNat.toUInt8 rest = .char c rest := by
  have hlead : c.toNat.toUInt8.toNat = c.toNat := toNat_toUInt8 (by omega)
  have hannounced : announced c.toNat.toUInt8 = 1 := by
    simp only [announced, hlead, if_pos hc]
  simp only [front, hannounced, hlead, Char.ofNat_toNat]

theorem front_two_octets {c : Char} (rest : Octets) (hlow : 0x80 ≤ c.toNat)
    (hhigh : c.toNat < 0x800) :
    front (0xC0 + c.toNat / 0x40).toUInt8 ((0x80 + c.toNat % 0x40).toUInt8 :: rest) =
      .char c rest := by
  have hlead : (0xC0 + c.toNat / 0x40).toUInt8.toNat = 0xC0 + c.toNat / 0x40 :=
    toNat_toUInt8 (by omega)
  have hlast : (0x80 + c.toNat % 0x40).toUInt8.toNat = 0x80 + c.toNat % 0x40 :=
    toNat_toUInt8 (by omega)
  have hannounced : announced (0xC0 + c.toNat / 0x40).toUInt8 = 2 := by
    simp only [announced, hlead]
    grind
  have hfollows : canFollow (0xC0 + c.toNat / 0x40).toUInt8
      (0x80 + c.toNat % 0x40).toUInt8 = true := by
    simp only [canFollow, isContinuation, hlead, hlast]
    grind
  have hvalue : (0xC0 + c.toNat / 0x40) % 0x20 * 0x40 + (0x80 + c.toNat % 0x40) % 0x40 =
      c.toNat := by omega
  simp only [front, hannounced, hfollows, if_true, payload, hlead, hlast, hvalue,
    Char.ofNat_toNat]

theorem isContinuation_low_bits (n : Nat) : isContinuation (0x80 + n % 0x40).toUInt8 = true := by
  have hlast : (0x80 + n % 0x40).toUInt8.toNat = 0x80 + n % 0x40 := toNat_toUInt8 (by omega)
  simp only [isContinuation, hlast, decide_eq_true_eq]
  omega

theorem front_three_octets {c : Char} (rest : Octets) (hlow : 0x800 ≤ c.toNat)
    (hhigh : c.toNat < 0x10000) :
    front (0xE0 + c.toNat / 0x1000).toUInt8 ((0x80 + c.toNat / 0x40 % 0x40).toUInt8
        :: (0x80 + c.toNat % 0x40).toUInt8 :: rest) =
      .char c rest := by
  have hvalid := toNat_valid c
  have hlead : (0xE0 + c.toNat / 0x1000).toUInt8.toNat = 0xE0 + c.toNat / 0x1000 :=
    toNat_toUInt8 (by omega)
  have hsecond : (0x80 + c.toNat / 0x40 % 0x40).toUInt8.toNat = 0x80 + c.toNat / 0x40 % 0x40 :=
    toNat_toUInt8 (by omega)
  have hlast : (0x80 + c.toNat % 0x40).toUInt8.toNat = 0x80 + c.toNat % 0x40 :=
    toNat_toUInt8 (by omega)
  have hannounced : announced (0xE0 + c.toNat / 0x1000).toUInt8 = 3 := by
    simp only [announced, hlead]
    grind
  have hfollows : canFollow (0xE0 + c.toNat / 0x1000).toUInt8
      (0x80 + c.toNat / 0x40 % 0x40).toUInt8 = true := by
    simp only [canFollow, isContinuation, hlead, hsecond]
    grind
  have hcontinues := isContinuation_low_bits c.toNat
  have hvalue : (0xE0 + c.toNat / 0x1000) % 0x10 * 0x1000 +
        (0x80 + c.toNat / 0x40 % 0x40) % 0x40 * 0x40 + (0x80 + c.toNat % 0x40) % 0x40 =
      c.toNat := by omega
  simp only [front, hannounced, hfollows, hcontinues, if_true, payload, hlead, hsecond, hlast,
    hvalue, Char.ofNat_toNat]

theorem front_four_octets {c : Char} (rest : Octets) (hlow : 0x10000 ≤ c.toNat) :
    front (0xF0 + c.toNat / 0x40000).toUInt8 ((0x80 + c.toNat / 0x1000 % 0x40).toUInt8
        :: (0x80 + c.toNat / 0x40 % 0x40).toUInt8 :: (0x80 + c.toNat % 0x40).toUInt8 :: rest) =
      .char c rest := by
  have hvalid := toNat_valid c
  have hlead : (0xF0 + c.toNat / 0x40000).toUInt8.toNat = 0xF0 + c.toNat / 0x40000 :=
    toNat_toUInt8 (by omega)
  have hsecond : (0x80 + c.toNat / 0x1000 % 0x40).toUInt8.toNat =
      0x80 + c.toNat / 0x1000 % 0x40 := toNat_toUInt8 (by omega)
  have hthird : (0x80 + c.toNat / 0x40 % 0x40).toUInt8.toNat = 0x80 + c.toNat / 0x40 % 0x40 :=
    toNat_toUInt8 (by omega)
  have hlast : (0x80 + c.toNat % 0x40).toUInt8.toNat = 0x80 + c.toNat % 0x40 :=
    toNat_toUInt8 (by omega)
  have hannounced : announced (0xF0 + c.toNat / 0x40000).toUInt8 = 4 := by
    simp only [announced, hlead]
    grind
  have hfollows : canFollow (0xF0 + c.toNat / 0x40000).toUInt8
      (0x80 + c.toNat / 0x1000 % 0x40).toUInt8 = true := by
    simp only [canFollow, isContinuation, hlead, hsecond]
    grind
  have hcontinues := isContinuation_low_bits (c.toNat / 0x40)
  have hcontinues' := isContinuation_low_bits c.toNat
  have hvalue : (0xF0 + c.toNat / 0x40000) % 0x8 * 0x40000 +
        (0x80 + c.toNat / 0x1000 % 0x40) % 0x40 * 0x1000 +
        (0x80 + c.toNat / 0x40 % 0x40) % 0x40 * 0x40 + (0x80 + c.toNat % 0x40) % 0x40 =
      c.toNat := by omega
  simp only [front, hannounced, hfollows, hcontinues, hcontinues', if_true, payload, hlead,
    hsecond, hthird, hlast, hvalue, Char.ofNat_toNat]

/-- Reading takes the octets of a character off the front of any octets that follow them. -/
theorem exists_front_encodeChar (c : Char) :
    ∃ lead tail, encodeChar c = lead :: tail ∧
      ∀ rest, front lead (tail ++ rest) = .char c rest := by
  by_cases h1 : c.toNat < 0x80
  · have hencode : encodeChar c = [c.toNat.toUInt8] := by
      simp only [encodeChar, if_pos h1]
    exact ⟨_, _, hencode, fun rest => front_one_octet rest h1⟩
  by_cases h2 : c.toNat < 0x800
  · have hencode : encodeChar c =
        [(0xC0 + c.toNat / 0x40).toUInt8, (0x80 + c.toNat % 0x40).toUInt8] := by
      simp only [encodeChar, if_neg h1, if_pos h2]
    exact ⟨_, _, hencode, fun rest => front_two_octets rest (by omega) h2⟩
  by_cases h3 : c.toNat < 0x10000
  · have hencode : encodeChar c = [(0xE0 + c.toNat / 0x1000).toUInt8,
        (0x80 + c.toNat / 0x40 % 0x40).toUInt8, (0x80 + c.toNat % 0x40).toUInt8] := by
      simp only [encodeChar, if_neg h1, if_neg h2, if_pos h3]
    exact ⟨_, _, hencode, fun rest => front_three_octets rest (by omega) h3⟩
  · have hencode : encodeChar c = [(0xF0 + c.toNat / 0x40000).toUInt8,
        (0x80 + c.toNat / 0x1000 % 0x40).toUInt8, (0x80 + c.toNat / 0x40 % 0x40).toUInt8,
        (0x80 + c.toNat % 0x40).toUInt8] := by
      simp only [encodeChar, if_neg h1, if_neg h2, if_neg h3]
    exact ⟨_, _, hencode, fun rest => front_four_octets rest (by omega)⟩

@[simp] theorem encode_nil : encode [] = [] := rfl

theorem encode_cons (c : Char) (t : Text) : encode (c :: t) = encodeChar c ++ encode t := rfl

@[simp] theorem encode_append (t u : Text) : encode (t ++ u) = encode t ++ encode u := by
  simp [encode]

section Reading

variable {lead : UInt8} {rest after : Octets}

theorem decodeLossy_of_char {c : Char} (h : front lead rest = .char c after) :
    decodeLossy (lead :: rest) = c :: decodeLossy after := by
  rw [decodeLossy]
  split
  next hsame =>
    obtain ⟨rfl, rfl⟩ := Front.char.inj (h.symm.trans hsame)
    rfl
  next hsame => cases h.symm.trans hsame

theorem decodeLossy_of_fault {reason : Fault} {length : Nat}
    (h : front lead rest = .fault reason length after) :
    decodeLossy (lead :: rest) = replacement :: decodeLossy after := by
  rw [decodeLossy]
  split
  next hsame => cases h.symm.trans hsame
  next hsame =>
    obtain ⟨rfl, rfl, rfl⟩ := Front.fault.inj (h.symm.trans hsame)
    rfl

end Reading

/-- The lenient reading undoes the encoding. -/
theorem decodeLossy_encode (t : Text) : decodeLossy (encode t) = t := by
  induction t with
  | nil => simp [decodeLossy]
  | cons c t ih =>
    obtain ⟨lead, tail, hencode, hfront⟩ := exists_front_encodeChar c
    rw [encode_cons, hencode, List.cons_append, decodeLossy_of_char (hfront _), ih]

theorem encode_injective : Function.Injective encode := by
  intro t u h
  rw [← decodeLossy_encode t, h, decodeLossy_encode]

/-! ## Line feeds -/

theorem toUInt8_ne_feed {n : Nat} (hlow : 0x80 ≤ n) (hhigh : n < 256) : n.toUInt8 ≠ 0x0A := by
  intro h
  have hvalue := toNat_toUInt8 hhigh
  rw [h] at hvalue
  have hfeed : (0x0A : UInt8).toNat = 0x0A := rfl
  omega

theorem feed_mem_encodeChar_iff (c : Char) : 0x0A ∈ encodeChar c ↔ c = '\n' := by
  have hvalid := toNat_valid c
  constructor
  · intro hmem
    by_cases h1 : c.toNat < 0x80
    · simp only [encodeChar, if_pos h1, List.mem_singleton] at hmem
      have hvalue : c.toNat.toUInt8.toNat = c.toNat := toNat_toUInt8 (by omega)
      rw [← hmem] at hvalue
      exact Char.toNat_inj.mp hvalue.symm
    · exfalso
      simp only [encodeChar, if_neg h1] at hmem
      -- All octets of a longer sequence have the highest bit.
      split at hmem
      · simp only [List.mem_cons, List.not_mem_nil, or_false] at hmem
        rcases hmem with h | h <;> exact toUInt8_ne_feed (by omega) (by omega) h.symm
      split at hmem
      · simp only [List.mem_cons, List.not_mem_nil, or_false] at hmem
        rcases hmem with h | h | h <;> exact toUInt8_ne_feed (by omega) (by omega) h.symm
      · simp only [List.mem_cons, List.not_mem_nil, or_false] at hmem
        rcases hmem with h | h | h | h <;> exact toUInt8_ne_feed (by omega) (by omega) h.symm
  · rintro rfl
    decide

/-- The encoding has an octet 0x0A for each line feed and no others. -/
theorem count_encode (t : Text) : (encode t).count 0x0A = t.count '\n' := by
  induction t with
  | nil => rfl
  | cons c t ih =>
    rw [encode_cons, List.count_append, ih]
    by_cases hc : c = '\n'
    · subst hc
      have hfeed : (encodeChar '\n').count 0x0A = 1 := by decide
      rw [hfeed, List.count_cons_self, Nat.add_comm]
    · have hnone : (encodeChar c).count 0x0A = 0 :=
        List.count_eq_zero.mpr fun hmem => hc ((feed_mem_encodeChar_iff c).mp hmem)
      rw [hnone, List.count_cons_of_ne hc, Nat.zero_add]

/-! ## Positions between characters -/

@[simp] theorem size_append (t u : Text) : size (t ++ u) = size t + size u := by
  simp [size]

theorem eq_nil_of_size_eq_zero {t : Text} (h : size t = 0) : t = [] := by
  cases t with
  | nil => rfl
  | cons c t =>
    obtain ⟨lead, tail, hencode, -⟩ := exists_front_encodeChar c
    rw [size, encode_cons, hencode] at h
    exact absurd h (Nat.succ_ne_zero _)

/-- Of two beginnings of a text the one with fewer octets begins the other. -/
theorem isPrefix_of_size_le {front other t : Text} (hfront : front <+: t) (hother : other <+: t)
    (hle : size front ≤ size other) : front <+: other := by
  rcases List.prefix_or_prefix_of_prefix hfront hother with h | ⟨more, rfl⟩
  · exact h
  · rw [size_append] at hle
    obtain rfl : more = [] := eq_nil_of_size_eq_zero (by omega)
    exact ⟨[], by rw [List.append_nil, List.append_nil]⟩

/-- A position in the octets of a text at which no character is cut. -/
def IsBoundary (t : Text) (position : Nat) : Prop :=
  ∃ k, size (t.take k) = position

/-- Two boundaries cut a text into what stands before, between and after them. -/
theorem exists_split_of_boundaries {t : Text} {start stop : Nat} (hle : start ≤ stop)
    (hstart : IsBoundary t start) (hstop : IsBoundary t stop) :
    ∃ before inside after, t = before ++ inside ++ after ∧ size before = start ∧
      size (before ++ inside) = stop := by
  obtain ⟨j, rfl⟩ := hstart
  obtain ⟨k, rfl⟩ := hstop
  rcases Nat.le_total j k with hjk | hkj
  · have hcut : t.take j ++ (t.take k).drop j = t.take k := by
      have h := List.take_append_drop j (t.take k)
      rwa [List.take_take, Nat.min_eq_left hjk] at h
    refine ⟨t.take j, (t.take k).drop j, t.drop k, ?_, rfl, by rw [hcut]⟩
    rw [hcut, List.take_append_drop]
  · -- The second boundary comes first only if the octets between them are none.
    have hcut : t.take k ++ (t.take j).drop k = t.take j := by
      have h := List.take_append_drop k (t.take j)
      rwa [List.take_take, Nat.min_eq_left hkj] at h
    have hsize : size (t.take j) = size (t.take k) + size ((t.take j).drop k) := by
      rw [← size_append, hcut]
    refine ⟨t.take j, [], t.drop j, by simp, rfl, ?_⟩
    rw [List.append_nil]
    omega

/-- A boundary inside a stretch of a text cuts off a beginning of the stretch. -/
theorem exists_front_of_boundary {before inside after : Text} {position : Nat}
    (h : IsBoundary (before ++ inside ++ after) position) (hlow : size before ≤ position)
    (hhigh : position ≤ size (before ++ inside)) :
    ∃ front, front <+: inside ∧ size (before ++ front) = position := by
  obtain ⟨k, rfl⟩ := h
  have hbefore : before <+: before ++ inside ++ after := ⟨inside ++ after, by simp⟩
  have hcut := List.take_prefix k (before ++ inside ++ after)
  obtain ⟨front, hfront⟩ := isPrefix_of_size_le hbefore hcut hlow
  have hinside := isPrefix_of_size_le hcut (List.prefix_append _ _) hhigh
  rw [← hfront, List.prefix_append_right_inj] at hinside
  exact ⟨front, hinside, congrArg size hfront⟩

/-- The octets between two boundaries are those of the text between them. -/
theorem slice_encode (before inside after : Text) :
    (encode (before ++ inside ++ after)).slice (size before) (size (before ++ inside)) =
      encode inside := by
  have hinside : size (before ++ inside) - size before = (encode inside).length := by
    rw [size_append, Nat.add_sub_cancel_left, size]
  rw [Octets.slice, hinside, encode_append, encode_append, List.append_assoc, size,
    List.drop_left, List.take_left]

/-! ## The strict reading -/

theorem toUInt8_eq {n : Nat} {b : UInt8} (h : n = b.toNat) : n.toUInt8 = b := by
  subst h
  simp [Nat.toUInt8]

theorem toNat_ofNat {n : Nat} (h : n.isValidChar) : (Char.ofNat n).toNat = n := by
  rw [Char.ofNat, dif_pos h]
  rfl

section Front

variable {lead b c d : UInt8}

theorem encodeChar_one (hlead : announced lead = 1) :
    encodeChar (Char.ofNat lead.toNat) = [lead] := by
  have hlow : lead.toNat < 0x80 := by
    simp only [announced] at hlead
    grind
  have hvalue : (Char.ofNat lead.toNat).toNat = lead.toNat :=
    toNat_ofNat (Or.inl (by omega))
  simp only [encodeChar, hvalue, if_pos hlow, toUInt8_eq rfl]

theorem encodeChar_two (hlead : announced lead = 2) (hb : canFollow lead b = true) :
    encodeChar (Char.ofNat (lead.toNat % 0x20 * 0x40 + payload b)) = [lead, b] := by
  have hrange : 0xC2 ≤ lead.toNat ∧ lead.toNat < 0xE0 := by
    simp only [announced] at hlead
    grind
  have hsecond : 0x80 ≤ b.toNat ∧ b.toNat ≤ 0xBF := by
    simp only [canFollow, isContinuation] at hb
    grind
  rw [payload]
  generalize hn : lead.toNat % 0x20 * 0x40 + b.toNat % 0x40 = n
  have hvalue : (Char.ofNat n).toNat = n := toNat_ofNat (Or.inl (by omega))
  simp only [encodeChar, hvalue, if_neg (show ¬ n < 0x80 by omega),
    if_pos (show n < 0x800 by omega), toUInt8_eq (show 0xC0 + n / 0x40 = lead.toNat by omega),
    toUInt8_eq (show 0x80 + n % 0x40 = b.toNat by omega)]

theorem encodeChar_three (hlead : announced lead = 3) (hb : canFollow lead b = true)
    (hc : isContinuation c = true) :
    encodeChar (Char.ofNat (lead.toNat % 0x10 * 0x1000 + payload b * 0x40 + payload c)) =
      [lead, b, c] := by
  have hrange : 0xE0 ≤ lead.toNat ∧ lead.toNat < 0xF0 := by
    simp only [announced] at hlead
    grind
  have hsecond : 0x80 ≤ b.toNat ∧ b.toNat ≤ 0xBF ∧ (lead.toNat = 0xE0 → 0xA0 ≤ b.toNat) ∧
      (lead.toNat = 0xED → b.toNat ≤ 0x9F) := by
    simp only [canFollow, isContinuation] at hb
    grind
  have hthird : 0x80 ≤ c.toNat ∧ c.toNat ≤ 0xBF := of_decide_eq_true hc
  rw [payload, payload]
  generalize hn : lead.toNat % 0x10 * 0x1000 + b.toNat % 0x40 * 0x40 + c.toNat % 0x40 = n
  have hvalid : n.isValidChar := by
    rw [Nat.isValidChar]
    omega
  simp only [encodeChar, toNat_ofNat hvalid, if_neg (show ¬ n < 0x80 by omega),
    if_neg (show ¬ n < 0x800 by omega), if_pos (show n < 0x10000 by omega),
    toUInt8_eq (show 0xE0 + n / 0x1000 = lead.toNat by omega),
    toUInt8_eq (show 0x80 + n / 0x40 % 0x40 = b.toNat by omega),
    toUInt8_eq (show 0x80 + n % 0x40 = c.toNat by omega)]

theorem encodeChar_four (hlead : announced lead = 4) (hb : canFollow lead b = true)
    (hc : isContinuation c = true) (hd : isContinuation d = true) :
    encodeChar (Char.ofNat (lead.toNat % 0x8 * 0x40000 + payload b * 0x1000 + payload c * 0x40 +
      payload d)) = [lead, b, c, d] := by
  have hrange : 0xF0 ≤ lead.toNat ∧ lead.toNat < 0xF5 := by
    simp only [announced] at hlead
    grind
  have hsecond : 0x80 ≤ b.toNat ∧ b.toNat ≤ 0xBF ∧ (lead.toNat = 0xF0 → 0x90 ≤ b.toNat) ∧
      (lead.toNat = 0xF4 → b.toNat ≤ 0x8F) := by
    simp only [canFollow, isContinuation] at hb
    grind
  have hthird : 0x80 ≤ c.toNat ∧ c.toNat ≤ 0xBF := of_decide_eq_true hc
  have hlast : 0x80 ≤ d.toNat ∧ d.toNat ≤ 0xBF := of_decide_eq_true hd
  rw [payload, payload, payload]
  generalize hn : lead.toNat % 0x8 * 0x40000 + b.toNat % 0x40 * 0x1000 + c.toNat % 0x40 * 0x40 +
    d.toNat % 0x40 = n
  have hvalid : n.isValidChar := by
    rw [Nat.isValidChar]
    omega
  simp only [encodeChar, toNat_ofNat hvalid, if_neg (show ¬ n < 0x80 by omega),
    if_neg (show ¬ n < 0x800 by omega), if_neg (show ¬ n < 0x10000 by omega),
    toUInt8_eq (show 0xF0 + n / 0x40000 = lead.toNat by omega),
    toUInt8_eq (show 0x80 + n / 0x1000 % 0x40 = b.toNat by omega),
    toUInt8_eq (show 0x80 + n / 0x40 % 0x40 = c.toNat by omega),
    toUInt8_eq (show 0x80 + n % 0x40 = d.toNat by omega)]

theorem high_of_announced (h : announced lead ≠ 1) : 0x80 ≤ lead.toNat := by
  simp only [announced] at h
  grind

theorem high_of_canFollow (h : canFollow lead b = true) : 0x80 ≤ b.toNat := by
  simp only [canFollow, isContinuation] at h
  grind

theorem high_of_isContinuation (h : isContinuation b = true) : 0x80 ≤ b.toNat :=
  (of_decide_eq_true h).1

/-- What the front of some octets may be: the encoding of a character, or an ill-formed sequence,
whose octets all have the highest bit. -/
inductive Begins (octets : Octets) : Front → Prop where
  | char {letter : Char} {after : Octets} (heq : encodeChar letter ++ after = octets) :
      Begins octets (.char letter after)
  | fault {reason : Fault} {after : Octets} (skipped : Octets) (heq : skipped ++ after = octets)
      (hhigh : ∀ b ∈ skipped, 0x80 ≤ b.toNat) :
      Begins octets (.fault reason skipped.length after)

theorem begins_front (lead : UInt8) (rest : Octets) : Begins (lead :: rest) (front lead rest) := by
  unfold front
  split
  next hone => exact .char (by rw [encodeChar_one hone]; rfl)
  next htwo =>
    have hlead : 0x80 ≤ lead.toNat := high_of_announced (by omega)
    split
    next => exact .fault [lead] rfl (by simpa using hlead)
    next b rest =>
      split
      next hb => exact .char (by rw [encodeChar_two htwo hb]; rfl)
      next => exact .fault [lead] rfl (by simpa using hlead)
  next hthree =>
    have hlead : 0x80 ≤ lead.toNat := high_of_announced (by omega)
    split
    next => exact .fault [lead] rfl (by simpa using hlead)
    next b rest =>
      split
      next hb =>
        have hsecond := high_of_canFollow hb
        split
        next => exact .fault [lead, b] rfl (by simp [hlead, hsecond])
        next c rest =>
          split
          next hc => exact .char (by rw [encodeChar_three hthree hb hc]; rfl)
          next => exact .fault [lead, b] rfl (by simp [hlead, hsecond])
      next => exact .fault [lead] rfl (by simpa using hlead)
  next hfour =>
    have hlead : 0x80 ≤ lead.toNat := high_of_announced (by omega)
    split
    next => exact .fault [lead] rfl (by simpa using hlead)
    next b rest =>
      split
      next hb =>
        have hsecond := high_of_canFollow hb
        split
        next => exact .fault [lead, b] rfl (by simp [hlead, hsecond])
        next c rest =>
          split
          next hc =>
            have hthird := high_of_isContinuation hc
            split
            next => exact .fault [lead, b, c] rfl (by simp [hlead, hsecond, hthird])
            next d rest =>
              split
              next hd => exact .char (by rw [encodeChar_four hfour hb hc hd]; rfl)
              next => exact .fault [lead, b, c] rfl (by simp [hlead, hsecond, hthird])
          next => exact .fault [lead, b] rfl (by simp [hlead, hsecond])
      next => exact .fault [lead] rfl (by simpa using hlead)
  next hone _ _ _ => exact .fault [lead] rfl (by simpa using high_of_announced hone)

/-- What reading takes off the front of some octets is the encoding of a character. -/
theorem encodeChar_append_of_front {rest after : Octets} {letter : Char}
    (h : front lead rest = .char letter after) : encodeChar letter ++ after = lead :: rest := by
  have hbegins := begins_front lead rest
  rw [h] at hbegins
  cases hbegins with
  | char heq => exact heq

/-- No line feed is among the octets of an ill-formed sequence. -/
theorem exists_skipped_of_front {rest after : Octets} {reason : Fault} {length : Nat}
    (h : front lead rest = .fault reason length after) :
    ∃ skipped, skipped ++ after = lead :: rest ∧ 0x0A ∉ skipped := by
  have hbegins := begins_front lead rest
  rw [h] at hbegins
  cases hbegins with
  | fault skipped heq hhigh =>
    exact ⟨skipped, heq, fun hfeed => absurd (hhigh 0x0A hfeed) (by decide)⟩

end Front

section Reading

variable {lead : UInt8} {rest after : Octets}

end Reading

/-- The lenient reading of any octets has a line feed for each octet 0x0A and no others. -/
theorem count_decodeLossy (octets : Octets) :
    (decodeLossy octets).count '\n' = octets.count 0x0A := by
  induction octets using decodeLossy.induct with
  | case1 => rw [decodeLossy, List.count_nil, List.count_nil]
  | case2 lead rest c after hfront ih =>
    have hchar : (encodeChar c).count 0x0A = [c].count '\n' := by
      rw [← count_encode, encode_cons, encode_nil, List.append_nil]
    rw [decodeLossy_of_char hfront, ← encodeChar_append_of_front hfront, List.count_append, hchar,
      ← ih, ← List.count_append, List.singleton_append]
  | case3 lead rest reason length after hfront ih =>
    -- No line feed is skipped, and the replacement is none.
    obtain ⟨skipped, hskipped, hfeed⟩ := exists_skipped_of_front hfront
    rw [decodeLossy_of_fault hfront, ← hskipped, List.count_append, List.count_eq_zero.mpr hfeed,
      ← ih, Nat.zero_add, List.count_cons_of_ne (by decide)]

end SourceBlocks.Utf8
