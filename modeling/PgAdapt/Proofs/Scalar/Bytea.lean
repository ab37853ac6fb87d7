import PgAdapt.Proofs.Scalar.Codecs

/-!
# The two texts of a string of bytes

A string of bytes has texts of two kinds. One starts with a mark and goes on with two hexadecimal
digits for each byte; the other spells byte after byte, and uses a backslash to do so in different
ways. Both are given here as relations between the text and the bytes that it spells,
`PgAdapt.Blob.SpellsHex` and `PgAdapt.Blob.SpellsEscaped`, without a word on how they are read.

The mark starts with a backslash as well, but no text of the second kind starts with it
(`PgAdapt.Blob.not_hexMark_prefix`), so a loader that looks for the mark first loses none of
them. The loaders of both catalogues load exactly what is spelled in one of the two ways, and
refuse everything else as faulty data: `PgAdapt.Blob.textLoader_load_spelled`.
-/

namespace PgAdapt

namespace Blob

/-! ### Hexadecimal digits -/

/-- The digits, with small letters. -/
def smallDigits : Bytes :=
  Bytes.ascii ['0', '1', '2', '3', '4', '5', '6', '7', '8', '9', 'a', 'b', 'c', 'd', 'e', 'f']

/-- The digits, with capital letters. -/
def capitalDigits : Bytes :=
  Bytes.ascii ['0', '1', '2', '3', '4', '5', '6', '7', '8', '9', 'A', 'B', 'C', 'D', 'E', 'F']

/-- A byte is the digit of a number, in small or capital letters. -/
def IsHexDigit (byte : UInt8) (n : Nat) : Prop :=
  smallDigits[n]? = some byte ∨ capitalDigits[n]? = some byte

/-- Digits **spell** bytes if each byte is spelled by two of them. -/
inductive SpellsHex : Bytes → Bytes → Prop where
  /-- No digits spell no bytes. -/
  | nil : SpellsHex [] []
  /-- Two digits spell a byte, the higher one first. -/
  | cons {high low : UInt8} {h l : Nat} {digits bytes : Bytes} (hhigh : IsHexDigit high h)
      (hlow : IsHexDigit low l) (rest : SpellsHex digits bytes) :
      SpellsHex (high :: low :: digits) (UInt8.ofNat (16 * h + l) :: bytes)

theorem isHexDigit_of_value? {byte n : UInt8} (h : Hex.value? byte = some n) :
    IsHexDigit byte n.toNat := by
  have hall : ∀ byte, ((Hex.value? byte).all fun n =>
      smallDigits[n.toNat]? == some byte || capitalDigits[n.toNat]? == some byte) = true := by
    decide +kernel
  simpa [h, IsHexDigit] using hall byte

theorem value?_of_isHexDigit {byte : UInt8} {n : Nat} (h : IsHexDigit byte n) :
    Hex.value? byte = some (UInt8.ofNat n) ∧ n < 16 := by
  have hsmall : ∀ n : Fin 16, Hex.value? smallDigits[n] = some (UInt8.ofNat n) := by decide
  have hcapital : ∀ n : Fin 16, Hex.value? capitalDigits[n] = some (UInt8.ofNat n) := by decide
  rcases h with h | h
  · obtain ⟨hn, rfl⟩ := List.getElem?_eq_some_iff.mp h
    exact ⟨hsmall ⟨n, hn⟩, hn⟩
  · obtain ⟨hn, rfl⟩ := List.getElem?_eq_some_iff.mp h
    exact ⟨hcapital ⟨n, hn⟩, hn⟩

theorem SpellsHex.length_eq {digits bytes : Bytes} (h : SpellsHex digits bytes) :
    digits.length = 2 * bytes.length := by
  induction h with
  | nil => rfl
  | cons _ _ _ ih =>
    rw [List.length_cons, List.length_cons, List.length_cons, ih]
    omega

/-- Digits that spell bytes are decoded. -/
theorem SpellsHex.decodeFrom_eq {digits bytes : Bytes} (h : SpellsHex digits bytes) :
    ∀ index, Hex.decodeFrom index digits = .ok bytes := by
  induction h with
  | nil =>
    intro index
    rfl
  | @cons high low h l digits bytes hhigh hlow _ ih =>
    intro index
    have hbyte : 16 * UInt8.ofNat h + UInt8.ofNat l = UInt8.ofNat (16 * h + l) := by
      simp
    rw [Hex.decodeFrom, (value?_of_isHexDigit hhigh).1, (value?_of_isHexDigit hlow).1]
    simp only [ih (index + 2), hbyte]
    rfl

/-- What is decoded is spelled. -/
theorem spellsHex_of_decodeFrom {index : Nat} {digits bytes : Bytes}
    (h : Hex.decodeFrom index digits = .ok bytes) : SpellsHex digits bytes := by
  induction index, digits using Hex.decodeFrom.induct generalizing bytes with
  | case1 index high low rest hhigh =>
    rw [Hex.decodeFrom, hhigh] at h
    cases h
  | case2 index high low rest _ hlow hhigh =>
    rw [Hex.decodeFrom, hhigh, hlow] at h
    cases h
  | case3 index high low rest n m hlow hhigh ih =>
    rw [Hex.decodeFrom, hhigh, hlow] at h
    obtain ⟨tail, htail, rfl⟩ := map_eq_ok_iff.mp h
    have hbyte : UInt8.ofNat (16 * n.toNat + m.toNat) = 16 * n + m := by
      simp
    rw [← hbyte]
    exact .cons (isHexDigit_of_value? hhigh) (isHexDigit_of_value? hlow) (ih htail)
  | case4 index head => cases h
  | case5 index =>
    cases h
    exact .nil

/-- **Hexadecimal digits are read exactly if they spell bytes**, by the lights of either
catalogue. -/
theorem fromHex_eq_ok_iff {c : Catalogue} {digits bytes : Bytes} :
    fromHex c digits = .ok bytes ↔ SpellsHex digits bytes := by
  by_cases heven : digits.length % 2 = 0
  · rw [fromHex_of_even c heven, mapError_eq_ok_iff, Hex.decode, if_pos heven]
    exact ⟨spellsHex_of_decodeFrom, fun h => h.decodeFrom_eq 0⟩
  · obtain ⟨message, hmessage⟩ := exists_fromHex_eq_error c heven
    rw [hmessage]
    constructor
    · intro h
      cases h
    · intro h
      rw [h.length_eq] at heven
      omega

/-! ### Escapes -/

/-- The digit of a number below ten. -/
def digit (n : Nat) : UInt8 := .ofNat (0x30 + n)

/-- The ways to **spell one byte**. -/
inductive SpellsByte : Bytes → UInt8 → Prop where
  /-- A byte that starts no escape stands for itself. -/
  | raw {byte : UInt8} (h : byte ≠ backslash) : SpellsByte [byte] byte
  /-- Two backslashes stand for one. -/
  | double : SpellsByte [backslash, backslash] backslash
  /-- Three octal digits behind a backslash, from 000 to 377, stand for the byte of that number. -/
  | octal {a b c : Nat} (ha : a ≤ 3) (hb : b ≤ 7) (hc : c ≤ 7) :
      SpellsByte [backslash, digit a, digit b, digit c] (.ofNat (64 * a + 8 * b + c))

/-- A text **spells bytes with escapes** if it spells one byte after the other. -/
inductive SpellsEscaped : Bytes → Bytes → Prop where
  /-- No text spells no bytes. -/
  | nil : SpellsEscaped [] []
  /-- One more byte. -/
  | cons {written text bytes : Bytes} {byte : UInt8} (h : SpellsByte written byte)
      (rest : SpellsEscaped text bytes) : SpellsEscaped (written ++ text) (byte :: bytes)

theorem toNat_digit {n : Nat} (h : n < 10) : (digit n).toNat = 0x30 + n := by
  rw [digit, UInt8.toNat_ofNat']
  omega

theorem isDigit_digit_iff {greatest : Nat} (h : greatest < 10) {byte : UInt8} :
    isDigit (digit greatest) byte = true ↔ ∃ n ≤ greatest, byte = digit n := by
  simp only [isDigit, Bool.and_eq_true, decide_eq_true_eq, UInt8.le_iff_toNat_le, toNat_digit h]
  constructor
  · rintro ⟨hleast, hgreatest⟩
    have hleast : 0x30 ≤ byte.toNat := hleast
    refine ⟨byte.toNat - 0x30, by omega, ?_⟩
    rw [← UInt8.toNat_inj, toNat_digit (by omega)]
    omega
  · rintro ⟨n, hn, rfl⟩
    rw [toNat_digit (by omega)]
    exact ⟨Nat.le_add_right _ _, Nat.add_le_add_left hn _⟩

/-- Three octal digits make the byte of their number. -/
theorem octal_digit {a b c : Nat} (ha : a ≤ 3) (hb : b ≤ 7) (hc : c ≤ 7) :
    octal (digit a) (digit b) (digit c) = .ofNat (64 * a + 8 * b + c) := by
  have hall : ∀ (a : Fin 4) (b c : Fin 8),
      octal (digit a) (digit b) (digit c) = .ofNat (64 * a.val + 8 * b.val + c.val) := by
    decide +kernel
  exact hall ⟨a, by omega⟩ ⟨b, by omega⟩ ⟨c, by omega⟩

theorem digit_ne {n : Nat} (h : n < 10) : digit n ≠ backslash ∧ digit n ≠ 'x'.toUInt8 := by
  have hall : ∀ n : Fin 10, digit n ≠ backslash ∧ digit n ≠ 'x'.toUInt8 := by decide
  exact hall ⟨n, h⟩

/-- Behind a backslash three digits are read if they are octal and their number is below 256. -/
theorem areOctal_iff {a b c : UInt8} :
    (isDigit 0x33 a && isDigit 0x37 b && isDigit 0x37 c) = true ↔
      ∃ i ≤ 3, ∃ j ≤ 7, ∃ k ≤ 7, a = digit i ∧ b = digit j ∧ c = digit k := by
  have hthree (byte : UInt8) : isDigit 0x33 byte = true ↔ ∃ n ≤ 3, byte = digit n :=
    @isDigit_digit_iff 3 (by decide) byte
  have hseven (byte : UInt8) : isDigit 0x37 byte = true ↔ ∃ n ≤ 7, byte = digit n :=
    @isDigit_digit_iff 7 (by decide) byte
  rw [Bool.and_eq_true, Bool.and_eq_true, hthree, hseven, hseven]
  constructor
  · rintro ⟨⟨⟨i, hi, ha⟩, j, hj, hb⟩, k, hk, hc⟩
    exact ⟨i, hi, j, hj, k, hk, ha, hb, hc⟩
  · rintro ⟨i, hi, j, hj, k, hk, ha, hb, hc⟩
    exact ⟨⟨⟨i, hi, ha⟩, j, hj, hb⟩, k, hk, hc⟩

/-- One byte is taken from the text at a time. -/
theorem SpellsByte.unescape?_append {written : Bytes} {byte : UInt8} (h : SpellsByte written byte)
    (text : Bytes) : unescape? (written ++ text) = (unescape? text).map (byte :: ·) := by
  rcases h with hbyte | _ | @⟨a, b, c, ha, hb, hc⟩
  · rw [List.singleton_append, unescape?.eq_def]
    exact if_pos hbyte
  · rw [List.cons_append, List.singleton_append, unescape?.eq_def]
    rfl
  · have hoctal : (isDigit 0x33 (digit a) && isDigit 0x37 (digit b) && isDigit 0x37 (digit c)) =
        true := areOctal_iff.mpr ⟨a, ha, b, hb, c, hc, rfl, rfl, rfl⟩
    rw [← octal_digit ha hb hc]
    simp only [List.cons_append, List.nil_append, unescape?, ne_eq, not_true_eq_false, if_false,
      (digit_ne (by omega : a < 10)).1, hoctal, if_true]

/-- What spells bytes with escapes is read. -/
theorem SpellsEscaped.unescape?_eq {text bytes : Bytes} (h : SpellsEscaped text bytes) :
    unescape? text = some bytes := by
  induction h with
  | nil => rw [unescape?]
  | cons h _ ih =>
    rw [h.unescape?_append, ih]
    rfl

/-- What is read spells bytes with escapes. -/
theorem spellsEscaped_of_unescape? {text bytes : Bytes} (h : unescape? text = some bytes) :
    SpellsEscaped text bytes := by
  induction text using unescape?.induct generalizing bytes with
  | case1 =>
    rw [unescape?] at h
    cases h
    exact .nil
  | case2 byte rest hbyte ih =>
    simp only [unescape?.eq_def (byte :: rest), if_pos hbyte] at h
    obtain ⟨tail, htail, rfl⟩ := Option.map_eq_some_iff.mp h
    exact .cons (.raw hbyte) (ih htail)
  | case3 byte hbyte =>
    simp only [unescape?.eq_def [byte], if_neg hbyte] at h
    cases h
  | case4 byte hbyte rest ih =>
    obtain rfl : byte = backslash := not_not.mp hbyte
    simp only [unescape?.eq_def (backslash :: backslash :: rest), if_neg hbyte, if_true] at h
    obtain ⟨tail, htail, rfl⟩ := Option.map_eq_some_iff.mp h
    exact .cons .double (ih htail)
  | case5 byte hbyte a ha b c rest hoctal ih =>
    obtain rfl : byte = backslash := not_not.mp hbyte
    simp only [unescape?.eq_def (backslash :: a :: b :: c :: rest), if_neg hbyte, if_neg ha,
      if_pos hoctal] at h
    obtain ⟨tail, htail, rfl⟩ := Option.map_eq_some_iff.mp h
    obtain ⟨i, hi, j, hj, k, hk, rfl, rfl, rfl⟩ := areOctal_iff.mp hoctal
    rw [octal_digit hi hj hk]
    exact .cons (.octal hi hj hk) (ih htail)
  | case6 byte hbyte a ha b c rest hoctal =>
    simp only [unescape?.eq_def (byte :: a :: b :: c :: rest), if_neg hbyte, if_neg ha,
      if_neg hoctal] at h
    cases h
  | case7 byte hbyte a rest ha hshort =>
    simp only [unescape?.eq_def (byte :: a :: rest), if_neg hbyte, if_neg ha] at h
    rcases rest with _ | ⟨b, _ | ⟨c, rest⟩⟩
    · cases h
    · cases h
    · exact absurd rfl (hshort b c rest)

/-- **Escapes are read exactly if they spell bytes.** -/
theorem unescape?_eq_some_iff {text bytes : Bytes} :
    unescape? text = some bytes ↔ SpellsEscaped text bytes :=
  ⟨spellsEscaped_of_unescape?, SpellsEscaped.unescape?_eq⟩

/-- No text with escapes starts with the mark: behind a backslash there is another one or an octal
digit. -/
theorem SpellsEscaped.not_hexMark_prefix {text bytes : Bytes} (h : SpellsEscaped text bytes) :
    ¬hexMark <+: text := by
  rintro ⟨rest, htext⟩
  rcases h with _ | ⟨hbyte | _ | ⟨ha, _, _⟩, _⟩
  · cases htext
  · exact hbyte (List.cons.inj htext).1.symm
  · exact absurd (List.cons.inj (List.cons.inj htext).2).1 (by decide)
  · exact (digit_ne (by omega)).2 (List.cons.inj (List.cons.inj htext).2).1.symm

/-! ### Loading -/

/-- A text **spells bytes** in one of two ways: behind the mark with hexadecimal digits, and
without it with escapes. -/
def Spells (text bytes : Bytes) : Prop :=
  if hexMark <+: text then SpellsHex (text.drop hexMark.length) bytes else SpellsEscaped text bytes

theorem SpellsEscaped.spells {text bytes : Bytes} (h : SpellsEscaped text bytes) :
    Spells text bytes := by
  rw [Spells, if_neg h.not_hexMark_prefix]
  exact h

theorem fromText_eq_ok_iff {c : Catalogue} {text bytes : Bytes} :
    fromText c text = .ok bytes ↔ Spells text bytes := by
  simp only [fromText, Spells, List.isPrefixOf_iff_prefix]
  split_ifs with hmark
  · rw [mapError_eq_ok_iff, fromHex_eq_ok_iff]
  · rw [← unescape?_eq_some_iff]
    rcases unescape? text with _ | bytes'
    · constructor <;> rintro ⟨⟩
    · constructor <;> rintro ⟨⟩ <;> rfl

/-- A text that does not spell bytes is faulty data. -/
theorem exists_fromText_eq_error {c : Catalogue} {text : Bytes} (h : ∀ bytes, ¬Spells text bytes) :
    ∃ message, fromText c text = .error (.data message) := by
  have hfail : ∀ bytes, fromText c text ≠ .ok bytes := fun bytes hok =>
    h bytes (fromText_eq_ok_iff.mp hok)
  rw [fromText] at hfail ⊢
  split_ifs at hfail ⊢ with hmark
  · rcases hhex : fromHex c (text.drop hexMark.length) with message | bytes
    · exact ⟨_, rfl⟩
    · rw [hhex] at hfail
      exact absurd rfl (hfail bytes)
  · rcases hescaped : unescape? text with _ | bytes
    · exact ⟨_, rfl⟩
    · rw [hescaped] at hfail
      exact absurd rfl (hfail bytes)

theorem load_eq_ok_iff {c : Catalogue} {text : Bytes} {v : Value} :
    (textLoader c).load text = .ok v ↔ ∃ bytes, v = .blob bytes ∧ Spells text bytes := by
  refine map_eq_ok_iff.trans ⟨?_, ?_⟩
  · rintro ⟨bytes, hbytes, rfl⟩
    exact ⟨bytes, rfl, fromText_eq_ok_iff.mp hbytes⟩
  · rintro ⟨bytes, rfl, hbytes⟩
    exact ⟨bytes, fromText_eq_ok_iff.mpr hbytes, rfl⟩

theorem exists_load_eq_error {c : Catalogue} {text : Bytes} (h : ∀ bytes, ¬Spells text bytes) :
    ∃ message, (textLoader c).load text = .error (.data message) := by
  obtain ⟨message, hmessage⟩ := exists_fromText_eq_error (c := c) h
  exact ⟨message, congrArg (Except.map Value.blob) hmessage⟩

/-- **What the loaders of strings of bytes make of a text.** By the lights of either catalogue a
text is loaded as a string of bytes exactly if it spells it – behind the mark with an even number
of hexadecimal digits in small or capital letters, and without the mark with escapes – and is
refused as faulty data if it spells nothing. So what the dumper of either catalogue writes for
some bytes is loaded as them again, and so is every text that spells them with escapes, in
whichever way it spells each of them. On no text do the two catalogues differ. -/
theorem textLoader_load_spelled :
    (∀ (c : Catalogue) (text : Bytes),
      (∀ v, (textLoader c).load text = .ok v ↔ ∃ bytes, v = .blob bytes ∧ Spells text bytes) ∧
      ((∀ bytes, ¬Spells text bytes) →
        ∃ message, (textLoader c).load text = .error (.data message))) ∧
    (∀ (c c' : Catalogue) (bytes : Bytes), ∃ text,
      (textDumper c).dump (.blob bytes) = .ok text ∧
      (textDumper c).dump (.sharedBlob bytes) = .ok text ∧
      (textLoader c').load text = .ok (.blob bytes)) ∧
    (∀ (c : Catalogue) {text bytes : Bytes}, SpellsEscaped text bytes →
      (textLoader c).load text = .ok (.blob bytes)) ∧
    ∀ text : Bytes, (∃ bytes, ∀ c, (textLoader c).load text = .ok (.blob bytes)) ∨
      ∀ c, ∃ message, (textLoader c).load text = .error (.data message) := by
  refine ⟨fun c text => ⟨fun v => load_eq_ok_iff, exists_load_eq_error⟩, fun c c' bytes => ?_,
    fun c text bytes h => load_eq_ok_iff.mpr ⟨bytes, rfl, h.spells⟩, fun text => ?_⟩
  · exact ⟨hexMark ++ Hex.encode bytes, textDumper_dump_eq c rfl, textDumper_dump_eq c rfl,
      load_hex c' bytes⟩
  · by_cases h : ∃ bytes, Spells text bytes
    · obtain ⟨bytes, hbytes⟩ := h
      exact .inl ⟨bytes, fun c => load_eq_ok_iff.mpr ⟨bytes, rfl, hbytes⟩⟩
    · exact .inr fun c => exists_load_eq_error (not_exists.mp h)

/-- The text of a letter, a backslash and the greatest byte, and a mark without its digits. -/
theorem textLoader_load_spelled_escapes :
    SpellsEscaped (Bytes.ascii ['a', '\\', '\\', '\\', '3', '7', '7']) [0x61, 0x5C, 0xFF] ∧
    (textLoader .optimized).load (Bytes.ascii ['a', '\\', '\\', '\\', '3', '7', '7']) =
      .ok (.blob [0x61, 0x5C, 0xFF]) ∧
    (∀ bytes, ¬Spells (hexMark ++ [digit 4]) bytes) ∧
    ∃ message, (textLoader .reference).load (hexMark ++ [digit 4]) = .error (.data message) := by
  have hletter : SpellsByte [0x61] 0x61 := .raw (by decide)
  have hgreatest : SpellsByte [backslash, digit 3, digit 7, digit 7] 0xFF :=
    .octal (a := 3) (b := 7) (c := 7) (by decide) (by decide) (by decide)
  have hbytes : SpellsEscaped (Bytes.ascii ['a', '\\', '\\', '\\', '3', '7', '7'])
      [0x61, 0x5C, 0xFF] := .cons hletter (.cons .double (.cons hgreatest .nil))
  have hnone : ∀ bytes, ¬Spells (hexMark ++ [digit 4]) bytes := by
    intro bytes h
    have hload := (textLoader_load_spelled.1 .reference (hexMark ++ [digit 4])).1 (.blob bytes)
    cases hload.mpr ⟨bytes, rfl, h⟩
  exact ⟨hbytes, textLoader_load_spelled.2.2.1 .optimized hbytes, hnone,
    (textLoader_load_spelled.1 .reference _).2 hnone⟩

end Blob

end PgAdapt
