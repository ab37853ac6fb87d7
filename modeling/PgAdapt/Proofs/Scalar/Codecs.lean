import PgAdapt.Proofs.Decimal.Written
import PgAdapt.Scalar.Singleton
import PgAdapt.Scalar.Text

/-!
# Single values come back

What the dumper of one catalogue writes is loaded by the loader of either catalogue, in both formats,
although the catalogues go different ways.
-/

namespace PgAdapt

/-! ## In text

The catalogues go different ways to the text of a value and back, and each way is shown to end where
the other one does:

* a buffer that has been made for hexadecimal digits has just the room that they take
  (`PgAdapt.Blob.hexText_eq`, `PgAdapt.Blob.fromHex_of_even`);
* bytes that are shared are those that would be copied (`PgAdapt.Blob.content_eq`);
* bytes that a text takes over are those that it spells (`PgAdapt.Text.read_eq`);
* the answers that are ready for a truth value are those that would be made for it
  (`PgAdapt.Singleton.letter_eq`, `PgAdapt.Singleton.word_eq`, `PgAdapt.Singleton.ofLetter?_eq`);
* the digits of a number are those of its text (`PgAdapt.IntType.textWriter_eq`).

A text or a string of bytes comes back as one that the value owns, `PgAdapt.Value.owned`.
-/

/-- The value as it comes back: texts and strings of bytes are owned by the value. -/
def Value.owned : Value → Value
  | .staticText s => .text s
  | .sharedBlob bytes => .blob bytes
  | v => v

theorem Value.owned_eq_self {v : Value} (htext : v.type ≠ .staticText)
    (hblob : v.type ≠ .sharedBlob) : v.owned = v := by
  cases v with
  | staticText s => exact absurd rfl htext
  | sharedBlob bytes => exact absurd rfl hblob
  | _ => rfl

namespace Text

/-! ### Texts -/

/-- Both catalogues find the character zero. -/
theorem hasZero_iff (c : Catalogue) (s : String) : hasZero c s = true ↔ '\x00' ∈ s.toList := by
  rcases c with _ | _
  · exact List.contains_iff_mem
  · exact List.contains_iff_mem.trans (Utf8.zero_mem_encode_iff s)

theorem hasZero_eq_false (c : Catalogue) {s : String} (h : '\x00' ∉ s.toList) :
    hasZero c s = false := Bool.eq_false_iff.mpr (mt (hasZero_iff c s).mp h)

/-- A text without the character zero is dumped to its bytes. -/
theorem dump_eq (c : Catalogue) (codec : String) {v : Value} {s : String} (hv : v.text? = some s)
    (h : '\x00' ∉ s.toList) : dump c codec v = .ok (Utf8.encode s) := by
  rw [dump, hv]
  simp [hasZero_eq_false c h]

theorem textDumper_dump_eq (c : Catalogue) {v : Value} {s : String} (hv : v.text? = some s)
    (h : '\x00' ∉ s.toList) : (textDumper c).dump v = .ok (Utf8.encode s) := dump_eq c _ hv h

/-- **Both catalogues make the same text** of a string of bytes, or find the same fault. -/
theorem read_eq (c : Catalogue) (data : Bytes) : read c data = Utf8.decode data := by
  cases c with
  | reference => rfl
  | optimized => exact Utf8.takeOver_eq_decode data

/-- A text is loaded from its bytes. -/
theorem load_encode (c : Catalogue) (format : Format) (s : String) :
    (loader c format).load (Utf8.encode s) = .ok (.text s) := by
  simp only [loader, read_eq, Utf8.decode_encode]

end Text

namespace Blob

/-! ### Strings of bytes -/

/-- Digits in pairs are decoded, whether or not there is a slice for the bytes. -/
theorem fromHex_of_even (c : Catalogue) {digits : Bytes} (h : digits.length % 2 = 0) :
    fromHex c digits = (Hex.decode digits).mapError hexMessage := by
  cases c with
  | reference => rfl
  | optimized =>
    have hslice : digits.length / 2 = (List.replicate (digits.length / 2) (0 : UInt8)).length :=
      List.length_replicate.symm
    rw [fromHex, if_neg (not_not_intro h), Hex.decodeInto_eq hslice]

/-- A digit without a partner is refused, by either catalogue in its own words. -/
theorem exists_fromHex_eq_error (c : Catalogue) {digits : Bytes} (h : digits.length % 2 ≠ 0) :
    ∃ message, fromHex c digits = .error message := by
  cases c with
  | reference =>
    rw [fromHex, Hex.decode, if_neg h]
    exact ⟨_, rfl⟩
  | optimized =>
    rw [fromHex, if_pos h]
    exact ⟨_, rfl⟩

theorem fromHex_encode (c : Catalogue) (bytes : Bytes) :
    fromHex c (Hex.encode bytes) = .ok bytes := by
  have heven : (Hex.encode bytes).length % 2 = 0 := by
    rw [Hex.length_encode]
    omega
  rw [fromHex_of_even c heven, Hex.decode_encode]
  rfl

/-- A buffer starts with what it has been made of, if it is long enough. -/
theorem buffer_eq {length : Nat} {start : Bytes} (h : start.length ≤ length) :
    buffer length start = start ++ List.replicate (length - start.length) 0 := by
  rw [buffer, List.take_of_length_le h]

/-- **The digits fill the buffer** that has been made for them, so there is no error, and nothing is
left of the zeros. -/
theorem hexText_eq (c : Catalogue) (bytes : Bytes) :
    hexText c bytes = .ok (hexMark ++ Hex.encode bytes) := by
  cases c with
  | reference => rfl
  | optimized =>
    have hbuffer : buffer (2 + 2 * bytes.length) hexMark =
        hexMark ++ List.replicate (2 * bytes.length) 0 := by
      rw [buffer_eq (by change 2 ≤ _; omega)]
      change hexMark ++ List.replicate (2 + 2 * bytes.length - 2) 0 = _
      rw [Nat.add_sub_cancel_left]
    have hdigits : Hex.encodeInto (List.replicate (2 * bytes.length) 0) bytes =
        .ok (Hex.encode bytes) := Hex.encodeInto_eq List.length_replicate.symm
    have hdrop (zeros : Bytes) : (hexMark ++ zeros).drop 2 = zeros := rfl
    have htake (zeros : Bytes) : (hexMark ++ zeros).take 2 = hexMark := rfl
    simp only [hexText, hbuffer, hdrop, htake, hdigits]

/-- Bytes that are shared are those that would be copied. -/
theorem content_eq (c : Catalogue) (codec : String) (v : Value) :
    content c codec v = bytesOf codec v := by
  cases c with
  | reference => rfl
  | optimized => cases v <;> rfl

/-- A string of bytes is loaded from its digits. -/
theorem load_hex (c : Catalogue) (bytes : Bytes) :
    (textLoader c).load (hexMark ++ Hex.encode bytes) = .ok (.blob bytes) := by
  have hmark : hexMark.isPrefixOf (hexMark ++ Hex.encode bytes) = true := by
    rw [List.isPrefixOf_iff_prefix]
    exact List.prefix_append _ _
  simp only [textLoader, fromText, hmark, if_true, List.drop_left, fromHex_encode]
  rfl

theorem textDumper_dump_eq (c : Catalogue) {v : Value} {bytes : Bytes} (hv : v.blob? = some bytes) :
    (textDumper c).dump v = .ok (hexMark ++ Hex.encode bytes) := by
  simp only [textDumper, bytesOf, hv]
  exact hexText_eq c bytes

end Blob

namespace IntType

/-! ### Whole numbers -/

theorem textReader_signedDecimal (t : IntType) (c : Catalogue) (word : t.Word) :
    t.textReader c (Bytes.signedDecimal (t.toInt word)) = some word := by
  cases c with
  | reference => exact Decimal.read?_signedDecimal t word
  | optimized => exact Decimal.accumulate?_signedDecimal t word

/-- The text of a number has its digits for bytes. -/
theorem encode_toString (n : Int) : Utf8.encode (toString n) = Bytes.signedDecimal n := by
  have hdigits (n : Nat) : ∀ c ∈ Nat.toDigits 10 n, c.toNat < 0x80 := fun c hc =>
    Decimal.toNat_lt_of_isDigit (Decimal.isDigit_of_mem_digits hc)
  cases n with
  | ofNat n => exact (Bytes.ascii_eq_encode (hdigits n)).symm
  | negSucc n =>
    have htext : toString (Int.negSucc n) = "-" ++ toString (n + 1) := rfl
    have hminus : Bytes.ascii ['-'] = Utf8.encode "-" := Bytes.ascii_eq_encode (by simp)
    have hrest : Bytes.decimal (n + 1) = Utf8.encode (toString (n + 1)) :=
      Bytes.ascii_eq_encode (hdigits (n + 1))
    rw [htext, Bytes.signedDecimal, hminus, hrest, Utf8.encode_append]

/-- Both catalogues write the same digits. -/
theorem textWriter_eq (t : IntType) (c : Catalogue) (word : t.Word) :
    t.textWriter c word = Bytes.signedDecimal (t.toInt word) := by
  cases c with
  | reference => exact encode_toString (t.toInt word)
  | optimized => rfl

theorem textDumper_dump_eq (t : IntType) (c : Catalogue) (word : t.Word) :
    (t.textDumper c).dump (.int t word) = .ok (Bytes.signedDecimal (t.toInt word)) := by
  simp only [textDumper, wordOf, Value.int?_int]
  exact congrArg Except.ok (t.textWriter_eq c word)

/-- A whole number is loaded from its digits. -/
theorem load_signedDecimal (t : IntType) (c : Catalogue) (word : t.Word) :
    (t.textLoader c).load (Bytes.signedDecimal (t.toInt word)) = .ok (.int t word) := by
  simp only [textLoader, textReader_signedDecimal]

end IntType

namespace Singleton

/-! ### Truth values -/

/-- Both catalogues have the same letter for a truth value. -/
theorem letter_eq (c : Catalogue) (b : Bool) :
    letter c b = pick b (Bytes.ascii ['t']) (Bytes.ascii ['f']) := by
  cases c with
  | reference =>
    cases b with
    | false => exact (Bytes.ascii_eq_encode (by simp)).symm
    | true => exact (Bytes.ascii_eq_encode (by simp)).symm
  | optimized => rfl

/-- Both catalogues have the same word for a truth value. -/
theorem word_eq (c : Catalogue) (b : Bool) : word c b =
    pick b (Bytes.ascii ['t', 'r', 'u', 'e']) (Bytes.ascii ['f', 'a', 'l', 's', 'e']) := by
  cases c with
  | reference =>
    cases b with
    | false => exact (Bytes.ascii_eq_encode (by simp)).symm
    | true => exact (Bytes.ascii_eq_encode (by simp)).symm
  | optimized => rfl

/-- Both catalogues have the same byte for a truth value. -/
theorem flag_eq (c : Catalogue) (b : Bool) : flag c b = [if b then 1 else 0] := by
  cases c <;> cases b <;> rfl

/-- Both catalogues know the letters, and no other string of bytes. -/
theorem ofLetter?_eq (c : Catalogue) (data : Bytes) :
    ofLetter? c data = if data = Bytes.ascii ['t'] then some true
      else if data = Bytes.ascii ['f'] then some false else none := by
  cases c with
  | reference => rfl
  | optimized =>
    by_cases hyes : data = Bytes.ascii ['t']
    · subst hyes
      rfl
    · by_cases hno : data = Bytes.ascii ['f']
      · subst hno
        rfl
      · rw [if_neg hyes, if_neg hno]
        exact ofLetter?.eq_4 data hyes hno

theorem boolTextDumper_dump_eq (c : Catalogue) (b : Bool) :
    (boolTextDumper c).dump (.bool b) = .ok (pick b (Bytes.ascii ['t']) (Bytes.ascii ['f'])) :=
  congrArg Except.ok (letter_eq c b)

/-- A truth value is loaded from its letter. -/
theorem load_letter (c : Catalogue) (b : Bool) :
    (boolTextLoader c).load (pick b (Bytes.ascii ['t']) (Bytes.ascii ['f'])) = .ok (.bool b) := by
  cases c <;> cases b <;> rfl

end Singleton

/-! ## In binary form

In binary form there is nothing to read or to spell: a number is its word in network order, a truth
value is one byte, and a text or a string of bytes is itself. So what the dumper of one catalogue
writes is loaded by the loader of either catalogue, and a floating-point number keeps all its bits.
-/

namespace IntType

/-! ### Numbers -/

theorem binaryDumper_dump_eq (t : IntType) (c : Catalogue) (word : t.Word) :
    (t.binaryDumper c).dump (.int t word) = .ok (Bytes.ofWord word) := by
  simp only [binaryDumper, wordOf, Value.int?_int]
  rfl

/-- A whole number is loaded from its word. -/
theorem load_ofWord (t : IntType) (c : Catalogue) (word : t.Word) :
    (t.binaryLoader c).load (Bytes.ofWord word) = .ok (.int t word) := by
  simp only [binaryLoader, Bytes.toWord?_ofWord]

end IntType

namespace FloatType

theorem binaryDumper_dump_eq (t : FloatType) (c : Catalogue) (word : t.Word) :
    (t.binaryDumper c).dump (.float t word) = .ok (Bytes.ofWord word) := by
  simp only [binaryDumper, wordOf, Value.float?_float]
  rfl

/-- A floating-point number is loaded from its bits. -/
theorem load_ofWord (t : FloatType) (c : Catalogue) (word : t.Word) :
    (t.binaryLoader c).load (Bytes.ofWord word) = .ok (.float t word) := by
  simp only [binaryLoader, Bytes.toWord?_ofWord]

end FloatType

namespace Singleton

/-! ### Truth values -/

theorem boolBinaryDumper_dump_eq (c : Catalogue) (b : Bool) :
    (boolBinaryDumper c).dump (.bool b) = .ok [if b then 1 else 0] :=
  congrArg Except.ok (flag_eq c b)

/-- A truth value is loaded from its byte. -/
theorem load_flag (c : Catalogue) (b : Bool) :
    (boolBinaryLoader c).load [if b then 1 else 0] = .ok (.bool b) := by
  cases b <;> rfl

end Singleton

namespace Text

/-! ### Texts and strings of bytes -/

/-- A text with the character zero is refused. -/
theorem dump_eq_error (c : Catalogue) (codec : String) {v : Value} {s : String}
    (hv : v.text? = some s) (h : '\x00' ∈ s.toList) : ∃ e, dump c codec v = .error e := by
  rw [dump, hv]
  simp only [(hasZero_iff c s).mpr h, if_true]
  exact ⟨_, rfl⟩

end Text

namespace Blob

theorem binaryDumper_dump_eq (c : Catalogue) {v : Value} {bytes : Bytes}
    (hv : v.blob? = some bytes) : (binaryDumper c).dump v = .ok bytes := by
  simp only [binaryDumper, content_eq, bytesOf, hv]

end Blob

end PgAdapt
