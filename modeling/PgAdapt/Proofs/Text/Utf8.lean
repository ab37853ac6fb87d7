import Mathlib.Tactic.SplitIfs
import PgAdapt.Proofs.Except
import PgAdapt.Text.Utf8

/-!
# UTF-8

The strict reader takes exactly the texts that have been written. That it takes them is linear
arithmetic, once the length of a character is known; that it takes nothing else rests on the bounds
on the second byte.
-/

namespace PgAdapt

/-! ## UTF-8 that has been written is read back

A character is written as one to four bytes. Their values are digits of the number of the
character in base 64, so whatever the reader of pieces compares or computes is a matter of linear
arithmetic once the length is known: `PgAdapt.Utf8.pieces_utf8EncodeChar_append`. From there it
goes character by character, `PgAdapt.Utf8.decode_encode`.
-/

namespace Utf8

/-! ### Pieces of two bytes and more -/

section Pieces

variable {first second third fourth : UInt8} {lead : Lead} (hfirst : ¬first < 0x80)
  (hlead : lead? first = some lead)
  (hsecond : lead.least ≤ second ∧ second ≤ lead.greatest) (rest : Bytes)

include hfirst hlead hsecond

theorem pieces_two (htails : lead.tails = 1) :
    pieces (first :: second :: rest) = .char (.ofNat (extend lead.bits second)) :: pieces rest := by
  rw [pieces.eq_def]
  simp only [if_neg hfirst, hlead, if_pos hsecond, if_pos htails]

theorem pieces_three (htails : lead.tails = 2) (hthird : isTail third = true) :
    pieces (first :: second :: third :: rest) =
      .char (.ofNat (extend (extend lead.bits second) third)) :: pieces rest := by
  have hone : lead.tails ≠ 1 := by omega
  rw [pieces.eq_def]
  simp only [if_neg hfirst, hlead, if_pos hsecond, if_neg hone, if_pos hthird, if_pos htails]

theorem pieces_four (htails : lead.tails = 3) (hthird : isTail third = true)
    (hfourth : isTail fourth = true) :
    pieces (first :: second :: third :: fourth :: rest) =
      .char (.ofNat (extend (extend (extend lead.bits second) third) fourth)) :: pieces rest := by
  have hone : lead.tails ≠ 1 := by omega
  have htwo : lead.tails ≠ 2 := by omega
  rw [pieces.eq_def]
  simp only [if_neg hfirst, hlead, if_pos hsecond, if_neg hone, if_neg htwo, if_pos hthird,
    if_pos hfourth]

end Pieces

/-! ### Bytes as numbers -/

theorem toNat_ofNat_of_lt {n : Nat} (h : n < 256) : (UInt8.ofNat n).toNat = n := by
  rw [UInt8.toNat_ofNat']
  exact Nat.mod_eq_of_lt h

theorem isTail_ofNat {n : Nat} (hleast : 0x80 ≤ n) (hgreatest : n ≤ 0xBF) :
    isTail (.ofNat n) = true := by
  have := toNat_ofNat_of_lt (n := n) (by omega)
  simp only [isTail, Bool.and_eq_true, decide_eq_true_eq, UInt8.le_iff_toNat_le, this]
  exact ⟨hleast, hgreatest⟩

theorem extend_ofNat {bits n : Nat} (hleast : 0x80 ≤ n) (hgreatest : n ≤ 0xBF) :
    extend bits (.ofNat n) = 64 * bits + (n - 0x80) := by
  have hn : (UInt8.ofNat n).toNat = n := toNat_ofNat_of_lt (by omega)
  unfold extend
  rw [hn]

theorem not_ofNat_lt {n : Nat} (hleast : 0x80 ≤ n) (h : n < 256) : ¬UInt8.ofNat n < 0x80 := by
  rw [UInt8.lt_iff_toNat_lt, toNat_ofNat_of_lt h]
  exact Nat.not_lt.mpr hleast

theorem lead?_two {n : Nat} (hleast : 0xC2 ≤ n) (hgreatest : n < 0xE0) :
    lead? (.ofNat n) = some ⟨1, n - 0xC0, 0x80, 0xBF⟩ := by
  have hn := toNat_ofNat_of_lt (n := n) (by omega)
  rw [lead?, if_neg, if_pos, hn]
  · rw [UInt8.lt_iff_toNat_lt, hn]
    exact hgreatest
  · rw [UInt8.lt_iff_toNat_lt, hn]
    exact Nat.not_lt.mpr hleast

theorem lead?_three {n : Nat} (hleast : 0xE0 ≤ n) (hgreatest : n < 0xF0) :
    lead? (.ofNat n) = some ⟨2, n - 0xE0, if n = 0xE0 then 0xA0 else 0x80,
      if n = 0xED then 0x9F else 0xBF⟩ := by
  have hn := toNat_ofNat_of_lt (n := n) (by omega)
  rw [lead?, if_neg, if_neg, if_pos, hn]
  · simp only [← UInt8.toNat_inj, hn]
    rfl
  · rw [UInt8.lt_iff_toNat_lt, hn]
    exact hgreatest
  · rw [UInt8.lt_iff_toNat_lt, hn]
    exact Nat.not_lt.mpr hleast
  · rw [UInt8.lt_iff_toNat_lt, hn]
    exact Nat.not_lt.mpr (Nat.le_trans (by decide) hleast)

theorem lead?_four {n : Nat} (hleast : 0xF0 ≤ n) (hgreatest : n < 0xF5) :
    lead? (.ofNat n) = some ⟨3, n - 0xF0, if n = 0xF0 then 0x90 else 0x80,
      if n = 0xF4 then 0x8F else 0xBF⟩ := by
  have hn := toNat_ofNat_of_lt (n := n) (by omega)
  rw [lead?, if_neg, if_neg, if_neg, if_pos, hn]
  · simp only [← UInt8.toNat_inj, hn]
    rfl
  · rw [UInt8.lt_iff_toNat_lt, hn]
    exact hgreatest
  · rw [UInt8.lt_iff_toNat_lt, hn]
    exact Nat.not_lt.mpr hleast
  · rw [UInt8.lt_iff_toNat_lt, hn]
    exact Nat.not_lt.mpr (Nat.le_trans (by decide) hleast)
  · rw [UInt8.lt_iff_toNat_lt, hn]
    exact Nat.not_lt.mpr (Nat.le_trans (by decide) hleast)

/-! ### Characters as numbers -/

section Numbers

variable {a b c d : Nat} (hb : 0x80 ≤ b) (hb' : b ≤ 0xBF) (rest : Bytes)

include hb hb'

theorem pieces_ofNat_two (ha : 0xC2 ≤ a) (ha' : a < 0xE0) :
    pieces (.ofNat a :: .ofNat b :: rest) =
      .char (.ofNat (64 * (a - 0xC0) + (b - 0x80))) :: pieces rest := by
  have hsecond : (0x80 : UInt8) ≤ .ofNat b ∧ UInt8.ofNat b ≤ 0xBF := by
    rw [UInt8.le_iff_toNat_le, UInt8.le_iff_toNat_le, toNat_ofNat_of_lt (by omega)]
    exact ⟨hb, hb'⟩
  rw [pieces_two (not_ofNat_lt (by omega) (by omega)) (lead?_two ha ha') hsecond rest rfl,
    extend_ofNat hb hb']

variable (hc : 0x80 ≤ c) (hc' : c ≤ 0xBF)

include hc hc'

theorem pieces_ofNat_three (ha : 0xE0 ≤ a) (ha' : a < 0xF0) (hleast : a = 0xE0 → 0xA0 ≤ b)
    (hgreatest : a = 0xED → b ≤ 0x9F) :
    pieces (.ofNat a :: .ofNat b :: .ofNat c :: rest) =
      .char (.ofNat (64 * (64 * (a - 0xE0) + (b - 0x80)) + (c - 0x80))) :: pieces rest := by
  have hsecond : (if a = 0xE0 then 0xA0 else 0x80 : UInt8) ≤ .ofNat b ∧
      UInt8.ofNat b ≤ if a = 0xED then 0x9F else 0xBF := by
    rw [UInt8.le_iff_toNat_le, UInt8.le_iff_toNat_le, toNat_ofNat_of_lt (by omega)]
    constructor
    · split_ifs with h
      · exact hleast h
      · exact hb
    · split_ifs with h
      · exact hgreatest h
      · exact hb'
  rw [pieces_three (not_ofNat_lt (by omega) (by omega)) (lead?_three ha ha') hsecond rest rfl
    (isTail_ofNat hc hc'), extend_ofNat hb hb', extend_ofNat hc hc']

theorem pieces_ofNat_four (hd : 0x80 ≤ d) (hd' : d ≤ 0xBF) (ha : 0xF0 ≤ a) (ha' : a < 0xF5)
    (hleast : a = 0xF0 → 0x90 ≤ b) (hgreatest : a = 0xF4 → b ≤ 0x8F) :
    pieces (.ofNat a :: .ofNat b :: .ofNat c :: .ofNat d :: rest) =
      .char (.ofNat (64 * (64 * (64 * (a - 0xF0) + (b - 0x80)) + (c - 0x80)) + (d - 0x80))) ::
        pieces rest := by
  have hsecond : (if a = 0xF0 then 0x90 else 0x80 : UInt8) ≤ .ofNat b ∧
      UInt8.ofNat b ≤ if a = 0xF4 then 0x8F else 0xBF := by
    rw [UInt8.le_iff_toNat_le, UInt8.le_iff_toNat_le, toNat_ofNat_of_lt (by omega)]
    constructor
    · split_ifs with h
      · exact hleast h
      · exact hb
    · split_ifs with h
      · exact hgreatest h
      · exact hb'
  rw [pieces_four (not_ofNat_lt (by omega) (by omega)) (lead?_four ha ha') hsecond rest rfl
    (isTail_ofNat hc hc') (isTail_ofNat hd hd'), extend_ofNat hb hb', extend_ofNat hc hc',
    extend_ofNat hd hd']

end Numbers

/-! ### Texts -/

theorem ofNat_eq (c : Char) {n : Nat} (h : n = c.val.toNat) : Char.ofNat n = c := by
  rw [h]
  exact Char.ofNat_toNat c

/-- **A character that has been written is read back**, whatever follows. -/
theorem pieces_utf8EncodeChar_append (c : Char) (rest : Bytes) :
    pieces (String.utf8EncodeChar c ++ rest) = .char c :: pieces rest := by
  have hvalid : c.val.toNat < 0xD800 ∨ (0xDFFF < c.val.toNat ∧ c.val.toNat < 0x110000) := c.valid
  -- The bytes are given by quotients and remainders, so what the reader asks of them is linear.
  simp only [String.utf8EncodeChar]
  split_ifs with h1 h2 h3
  · have hn : (UInt8.ofNat c.val.toNat).toNat = c.val.toNat := toNat_ofNat_of_lt (by omega)
    have hlt : UInt8.ofNat c.val.toNat < 0x80 := by
      rw [UInt8.lt_iff_toNat_lt, hn]
      exact Nat.lt_succ_of_le h1
    rw [List.singleton_append, pieces.eq_def]
    simp only [if_pos hlt, hn]
    rw [ofNat_eq c rfl]
  · simp only [List.cons_append, List.nil_append]
    rw [pieces_ofNat_two (by omega) (by omega) rest (by omega) (by omega), ofNat_eq c (by omega)]
  · simp only [List.cons_append, List.nil_append]
    rw [pieces_ofNat_three (by omega) (by omega) rest (by omega) (by omega) (by omega) (by omega)
      (by omega) (by omega), ofNat_eq c (by omega)]
  · simp only [List.cons_append, List.nil_append]
    rw [pieces_ofNat_four (by omega) (by omega) rest (by omega) (by omega) (by omega) (by omega)
      (by omega) (by omega) (by omega) (by omega), ofNat_eq c (by omega)]

theorem pieces_flatMap_utf8EncodeChar (text : List Char) :
    pieces (text.flatMap String.utf8EncodeChar) = text.map .char := by
  induction text with
  | nil => rfl
  | cons c text ih => rw [List.flatMap_cons, pieces_utf8EncodeChar_append, ih, List.map_cons]

theorem characters_map_char (index : Nat) (text : List Char) :
    characters index (text.map .char) = .ok text := by
  induction text generalizing index with
  | nil => rfl
  | cons c text ih =>
    rw [List.map_cons, characters, ih]
    rfl

/-- **A text that has been written is read back.** -/
theorem decode_encode (text : String) : decode (encode text) = .ok text := by
  rw [decode, encode, pieces_flatMap_utf8EncodeChar, characters_map_char]
  exact congrArg Except.ok String.ofList_toList

theorem encode_append (text text' : String) :
    encode (text ++ text') = encode text ++ encode text' := by
  rw [encode, String.toList_append, List.flatMap_append]
  rfl

theorem zero_ne_ofNat {n : Nat} (hpos : 0 < n) (h : n < 256) : (0 : UInt8) ≠ .ofNat n := by
  intro hzero
  have := congrArg UInt8.toNat hzero
  rw [toNat_ofNat_of_lt h] at this
  exact absurd this (Nat.ne_of_lt hpos)

theorem zero_mem_utf8EncodeChar_iff (c : Char) : 0 ∈ String.utf8EncodeChar c ↔ c = '\x00' := by
  have hvalid : c.val.toNat < 0xD800 ∨ (0xDFFF < c.val.toNat ∧ c.val.toNat < 0x110000) := c.valid
  by_cases hc : c = '\x00'
  · subst hc
    decide
  · have hpos : 0 < c.val.toNat := by
      refine Nat.pos_of_ne_zero fun hzero => hc ?_
      rw [← ofNat_eq c hzero.symm]
    simp only [hc, iff_false]
    simp only [String.utf8EncodeChar]
    split_ifs with h1 h2 h3 <;> simp only [List.mem_cons, List.not_mem_nil, or_false, not_or]
    · exact zero_ne_ofNat hpos (by omega)
    · exact ⟨zero_ne_ofNat (by omega) (by omega), zero_ne_ofNat (by omega) (by omega)⟩
    · exact ⟨zero_ne_ofNat (by omega) (by omega), zero_ne_ofNat (by omega) (by omega),
        zero_ne_ofNat (by omega) (by omega)⟩
    · exact ⟨zero_ne_ofNat (by omega) (by omega), zero_ne_ofNat (by omega) (by omega),
        zero_ne_ofNat (by omega) (by omega), zero_ne_ofNat (by omega) (by omega)⟩

/-- The byte zero occurs in a text exactly if the character zero does. -/
theorem zero_mem_encode_iff (text : String) : 0 ∈ encode text ↔ '\x00' ∈ text.toList := by
  simp only [encode, List.mem_flatMap, zero_mem_utf8EncodeChar_iff]
  simp

end Utf8

/-! ## What the reader of UTF-8 takes

A text that has been written is read back. Here is the converse: where the reader of pieces finds a
character, its bytes stand there (`PgAdapt.Utf8.exists_of_pieces_eq_char_cons`). The bounds on the
second byte are what makes this true, since they shut out all bytes that spell a character in a
longer way, and all numbers that are none. So the strict reader takes exactly the texts that have
been written: `PgAdapt.Utf8.decode_eq_ok_iff`. The bytes it takes are then those of the text, and
may be taken over as they are (`PgAdapt.Utf8.takeOver_eq_decode`).
-/

namespace Utf8

/-! ### Characters written again -/

theorem toNat_val_ofNat {n : Nat} (h : n.isValidChar) : (Char.ofNat n).val.toNat = n := by
  rw [Char.ofNat, dif_pos h]
  rfl

theorem utf8EncodeChar_ofNat_one {a : Nat} (ha : a < 0x80) :
    String.utf8EncodeChar (.ofNat a) = [.ofNat a] := by
  have hval : (Char.ofNat a).val.toNat = a := toNat_val_ofNat (.inl (by omega))
  simp only [String.utf8EncodeChar, hval]
  rw [if_pos (by omega)]

section Numbers

variable {a b c d : Nat} (hb : 0x80 ≤ b) (hb' : b ≤ 0xBF)

include hb hb'

theorem utf8EncodeChar_ofNat_two (ha : 0xC2 ≤ a) (ha' : a < 0xE0) :
    String.utf8EncodeChar (.ofNat (64 * (a - 0xC0) + (b - 0x80))) = [.ofNat a, .ofNat b] := by
  have hval := toNat_val_ofNat (n := 64 * (a - 0xC0) + (b - 0x80)) (.inl (by omega))
  have hone : (64 * (a - 0xC0) + (b - 0x80)) / 64 % 0x20 + 0xC0 = a := by omega
  have htwo : (64 * (a - 0xC0) + (b - 0x80)) % 0x40 + 0x80 = b := by omega
  simp only [String.utf8EncodeChar, hval]
  rw [if_neg (by omega), if_pos (by omega), hone, htwo]

variable (hc : 0x80 ≤ c) (hc' : c ≤ 0xBF)

include hc hc'

theorem utf8EncodeChar_ofNat_three (ha : 0xE0 ≤ a) (ha' : a < 0xF0) (hleast : a = 0xE0 → 0xA0 ≤ b)
    (hgreatest : a = 0xED → b ≤ 0x9F) :
    String.utf8EncodeChar (.ofNat (64 * (64 * (a - 0xE0) + (b - 0x80)) + (c - 0x80))) =
      [.ofNat a, .ofNat b, .ofNat c] := by
  generalize hn : 64 * (64 * (a - 0xE0) + (b - 0x80)) + (c - 0x80) = n
  have hval : (Char.ofNat n).val.toNat = n := by
    refine toNat_val_ofNat ?_
    rw [Nat.isValidChar]
    omega
  have hone : n / 4096 % 0x10 + 0xE0 = a := by omega
  have htwo : n / 64 % 0x40 + 0x80 = b := by omega
  have hthree : n % 0x40 + 0x80 = c := by omega
  simp only [String.utf8EncodeChar, hval]
  rw [if_neg (by omega), if_neg (by omega), if_pos (by omega), hone, htwo, hthree]

theorem utf8EncodeChar_ofNat_four (hd : 0x80 ≤ d) (hd' : d ≤ 0xBF) (ha : 0xF0 ≤ a) (ha' : a < 0xF5)
    (hleast : a = 0xF0 → 0x90 ≤ b) (hgreatest : a = 0xF4 → b ≤ 0x8F) :
    String.utf8EncodeChar
        (.ofNat (64 * (64 * (64 * (a - 0xF0) + (b - 0x80)) + (c - 0x80)) + (d - 0x80))) =
      [.ofNat a, .ofNat b, .ofNat c, .ofNat d] := by
  generalize hn : 64 * (64 * (64 * (a - 0xF0) + (b - 0x80)) + (c - 0x80)) + (d - 0x80) = n
  have hval : (Char.ofNat n).val.toNat = n := by
    refine toNat_val_ofNat ?_
    rw [Nat.isValidChar]
    omega
  have hone : n / 262144 % 0x08 + 0xF0 = a := by omega
  have htwo : n / 4096 % 0x40 + 0x80 = b := by omega
  have hthree : n / 64 % 0x40 + 0x80 = c := by omega
  have hfour : n % 0x40 + 0x80 = d := by omega
  simp only [String.utf8EncodeChar, hval]
  rw [if_neg (by omega), if_neg (by omega), if_neg (by omega), hone, htwo, hthree, hfour]

end Numbers

/-! ### First and second bytes -/

/-- **What the first two bytes say**: the number of bytes that follow, the bits, and the ranges of
both. -/
theorem cases_of_lead? {first second : UInt8} {lead : Lead} (h : lead? first = some lead)
    (hsecond : lead.least ≤ second ∧ second ≤ lead.greatest) :
    (0x80 ≤ second.toNat ∧ second.toNat ≤ 0xBF) ∧
      ((lead.tails = 1 ∧ lead.bits = first.toNat - 0xC0 ∧
          0xC2 ≤ first.toNat ∧ first.toNat < 0xE0) ∨
        (lead.tails = 2 ∧ lead.bits = first.toNat - 0xE0 ∧
          0xE0 ≤ first.toNat ∧ first.toNat < 0xF0 ∧
          (first.toNat = 0xE0 → 0xA0 ≤ second.toNat) ∧
          (first.toNat = 0xED → second.toNat ≤ 0x9F)) ∨
        (lead.tails = 3 ∧ lead.bits = first.toNat - 0xF0 ∧
          0xF0 ≤ first.toNat ∧ first.toNat < 0xF5 ∧
          (first.toNat = 0xF0 → 0x90 ≤ second.toNat) ∧
          (first.toNat = 0xF4 → second.toNat ≤ 0x8F))) := by
  simp only [lead?, UInt8.lt_iff_toNat_lt, ← UInt8.toNat_inj] at h
  split_ifs at h
  all_goals
    obtain rfl := Option.some.inj h
    simp [UInt8.le_iff_toNat_le] at *
    omega

/-- A byte that may follow. -/
theorem isTail_iff {byte : UInt8} : isTail byte = true ↔ 0x80 ≤ byte.toNat ∧ byte.toNat ≤ 0xBF := by
  simp [isTail, UInt8.le_iff_toNat_le]

/-! ### Characters -/

/-- **Where a character is read, its bytes stand.** -/
theorem exists_of_pieces_eq_char_cons {bytes : Bytes} {c : Char} {ps : List Piece}
    (h : pieces bytes = .char c :: ps) :
    ∃ rest, bytes = String.utf8EncodeChar c ++ rest ∧ pieces rest = ps := by
  revert h
  -- The reader finds a character in four places, one for each length.
  fun_cases pieces bytes
  case case2 first rest hfirst =>
    rintro ⟨⟩
    rw [UInt8.lt_iff_toNat_lt] at hfirst
    exact ⟨rest, by rw [utf8EncodeChar_ofNat_one hfirst, UInt8.ofNat_toNat]; rfl, rfl⟩
  case case5 first _ lead hlead second rest hsecond two htails =>
    intro h
    obtain ⟨hchar, rfl⟩ := List.cons.inj h
    obtain rfl := Piece.char.inj hchar
    obtain ⟨⟨hb, hb'⟩, hcases⟩ := cases_of_lead? hlead hsecond
    obtain ⟨-, hbits, ha, ha'⟩ | ⟨htails', -⟩ | ⟨htails', -⟩ := hcases
    · have hbytes : String.utf8EncodeChar (.ofNat (extend lead.bits second)) = [first, second] := by
        have htwo := utf8EncodeChar_ofNat_two hb hb' ha ha'
        rw [← hbits, UInt8.ofNat_toNat, UInt8.ofNat_toNat] at htwo
        exact htwo
      exact ⟨rest, by rw [hbytes]; rfl, rfl⟩
    · omega
    · omega
  case case7 first _ lead hlead second hsecond two hone third rest hthird three htails =>
    intro h
    obtain ⟨hchar, rfl⟩ := List.cons.inj h
    obtain rfl := Piece.char.inj hchar
    obtain ⟨hc, hc'⟩ := isTail_iff.mp hthird
    obtain ⟨⟨hb, hb'⟩, hcases⟩ := cases_of_lead? hlead hsecond
    obtain ⟨htails', -⟩ | ⟨-, hbits, ha, ha', hleast, hgreatest⟩ | ⟨htails', -⟩ := hcases
    · omega
    · have hbytes : String.utf8EncodeChar (.ofNat (extend (extend lead.bits second) third)) =
          [first, second, third] := by
        have hthree := utf8EncodeChar_ofNat_three hb hb' hc hc' ha ha' hleast hgreatest
        rw [← hbits, UInt8.ofNat_toNat, UInt8.ofNat_toNat, UInt8.ofNat_toNat] at hthree
        exact hthree
      exact ⟨rest, by rw [hbytes]; rfl, rfl⟩
    · omega
  case case9 first _ lead hlead second hsecond two hone third hthird three htwo fourth rest
      hfourth =>
    intro h
    obtain ⟨hchar, rfl⟩ := List.cons.inj h
    obtain rfl := Piece.char.inj hchar
    obtain ⟨hc, hc'⟩ := isTail_iff.mp hthird
    obtain ⟨hd, hd'⟩ := isTail_iff.mp hfourth
    obtain ⟨⟨hb, hb'⟩, hcases⟩ := cases_of_lead? hlead hsecond
    obtain ⟨htails', -⟩ | ⟨htails', -⟩ | ⟨-, hbits, ha, ha', hleast, hgreatest⟩ := hcases
    · omega
    · omega
    · have hbytes : String.utf8EncodeChar
          (.ofNat (extend (extend (extend lead.bits second) third) fourth)) =
            [first, second, third, fourth] := by
        have hfour := utf8EncodeChar_ofNat_four hb hb' hc hc' hd hd' ha ha' hleast hgreatest
        rw [← hbits, UInt8.ofNat_toNat, UInt8.ofNat_toNat, UInt8.ofNat_toNat,
          UInt8.ofNat_toNat] at hfour
        exact hfour
      exact ⟨rest, by rw [hbytes]; rfl, rfl⟩
  all_goals
    intro h
    cases h

theorem eq_flatMap_of_pieces_eq_map {bytes : Bytes} {text : List Char}
    (h : pieces bytes = text.map .char) : bytes = text.flatMap String.utf8EncodeChar := by
  induction text generalizing bytes with
  | nil =>
    revert h
    fun_cases pieces bytes
    case case1 => exact fun _ => rfl
    all_goals
      intro h
      cases h
  | cons c text ih =>
    obtain ⟨rest, rfl, hrest⟩ := exists_of_pieces_eq_char_cons h
    rw [List.flatMap_cons, ← ih hrest]

theorem pieces_eq_map_of_characters {index : Nat} {ps : List Piece} {text : List Char}
    (h : characters index ps = .ok text) : ps = text.map .char := by
  induction ps generalizing index text with
  | nil =>
    cases h
    rfl
  | cons p ps ih =>
    rcases p with c | _ | _
    · rw [characters, map_eq_ok_iff] at h
      obtain ⟨text, htext, rfl⟩ := h
      rw [List.map_cons, ih htext]
    · cases h
    · cases h

/-- **The strict reader takes exactly what has been written.** -/
theorem decode_eq_ok_iff {bytes : Bytes} {text : String} :
    decode bytes = .ok text ↔ bytes = encode text := by
  constructor
  · intro h
    rw [decode, map_eq_ok_iff] at h
    obtain ⟨cs, hcs, rfl⟩ := h
    rw [encode, String.toList_ofList]
    exact eq_flatMap_of_pieces_eq_map (pieces_eq_map_of_characters hcs)
  · rintro rfl
    exact decode_encode text

/-- The first fault is what stops the strict reader. -/
theorem fault?_eq_some_iff {index : Nat} {ps : List Piece} {fault : Fault} :
    fault? index ps = some fault ↔ characters index ps = .error fault := by
  induction ps generalizing index with
  | nil => simp [fault?, characters]
  | cons p ps ih =>
    cases p with
    | char c => rw [fault?, characters, ih, map_eq_error_iff]
    | broken length => simp [fault?, characters]
    | cutOff length => simp [fault?, characters]

/-- The bytes of a text are taken over by that text. -/
theorem fromUTF8!_encode (text : String) : String.fromUTF8! (encode text).toByteArray = text := by
  have hbytes : (encode text).toByteArray = text.toByteArray := String.utf8Encode_toList
  rw [hbytes, String.fromUTF8!, dif_pos text.isValidUTF8]
  rfl

/-- **Taking over is reading**: the same text, or the same fault. -/
theorem takeOver_eq_decode (bytes : Bytes) : takeOver bytes = decode bytes := by
  cases hdecode : decode bytes with
  | error fault =>
    have hfault : fault? 0 (pieces bytes) = some fault := by
      rw [fault?_eq_some_iff]
      exact map_eq_error_iff.mp hdecode
    rw [takeOver, hfault]
  | ok text =>
    have hfault : fault? 0 (pieces bytes) = none := by
      rw [Option.eq_none_iff_forall_ne_some]
      intro fault hfault
      rw [decode, fault?_eq_some_iff.mp hfault] at hdecode
      cases hdecode
    rw [takeOver, hfault]
    obtain rfl := decode_eq_ok_iff.mp hdecode
    exact congrArg Except.ok (fromUTF8!_encode text)

theorem decode?_eq_some_iff {bytes : Bytes} {text : String} :
    decode? bytes = some text ↔ bytes = encode text := by
  rw [decode?, ← decode_eq_ok_iff]
  rcases decode bytes with fault | text'
  · constructor
    · intro h
      cases h
    · intro h
      cases h
  · constructor
    · intro h
      cases h
      rfl
    · intro h
      cases h
      rfl

end Utf8

end PgAdapt
