/-!
# Strings of bytes

Everything that reaches the server or comes from it is a string of bytes, `PgAdapt.Bytes`. A number
stands in it in decimal or as a word in network order, and a string of bytes may itself be written
with hexadecimal digits.
-/

namespace PgAdapt

/-! ## Words in network order

In the **network order** of a fixed number of bytes the most significant byte comes first.
`PgAdapt.Bytes.ofNat` and `PgAdapt.Bytes.toNat` are the two directions, and
`PgAdapt.Bytes.toNat_ofNat` says that nothing but the part beyond the width is lost.
-/

/-- A string of bytes. -/
abbrev Bytes := List UInt8

namespace Bytes

/-- The bytes of a list of ASCII characters. -/
def ascii (cs : List Char) : Bytes := cs.map Char.toUInt8

/-- The decimal digits of a natural number. -/
def decimal (n : Nat) : Bytes := ascii (Nat.toDigits 10 n)

/-- The decimal digits of an integer, after a minus sign if it is negative. -/
def signedDecimal : Int → Bytes
  | .ofNat n => decimal n
  | .negSucc n => ascii ['-'] ++ decimal (n + 1)

/-- A property of all bytes is settled by looking at each of them. -/
instance {p : UInt8 → Prop} [DecidablePred p] : Decidable (∀ byte, p byte) :=
  decidable_of_iff (∀ n : Fin 256, p (.ofFin n))
    ⟨fun h byte => h byte.toFin, fun h n => h (.ofFin n)⟩

/-! ### Network order -/

/-- The last `width` bytes of a number, most significant byte first. -/
def ofNat : (width : Nat) → Nat → Bytes
  | 0, _ => []
  | width + 1, n => ofNat width (n / 256) ++ [UInt8.ofNat n]

/-- The number that a string of bytes spells, most significant byte first. -/
def toNat (bytes : Bytes) : Nat :=
  bytes.foldl (fun n byte => 256 * n + byte.toNat) 0

@[simp]
theorem length_ofNat (width n : Nat) : (ofNat width n).length = width := by
  induction width generalizing n with
  | zero => rfl
  | succ width ih => simp [ofNat, ih]

theorem toNat_append_singleton (bytes : Bytes) (byte : UInt8) :
    toNat (bytes ++ [byte]) = 256 * toNat bytes + byte.toNat := by
  simp [toNat]

/-- Writing a number in `width` bytes keeps it up to a multiple of `256 ^ width`. -/
theorem toNat_ofNat (width n : Nat) : toNat (ofNat width n) = n % Nat.pow 256 width := by
  rw [Nat.pow_eq]
  induction width generalizing n with
  | zero => simp [ofNat, toNat, Nat.mod_one]
  | succ width ih =>
    rw [ofNat, toNat_append_singleton, ih, Nat.pow_succ, Nat.mul_comm (256 ^ width) 256,
      Nat.mod_mul]
    simp [UInt8.toNat_ofNat']
    omega

/-! ### Words -/

/-- A word of `width` bytes in network order. -/
def ofWord {width : Nat} (word : BitVec (8 * width)) : Bytes := ofNat width word.toNat

/-- The word of `width` bytes that a string spells, if it has exactly that many. -/
def toWord? (width : Nat) (bytes : Bytes) : Option (BitVec (8 * width)) :=
  if bytes.length = width then some (.ofNat (8 * width) (toNat bytes)) else none

/-- A word is read back from its bytes. -/
@[simp]
theorem toWord?_ofWord {width : Nat} (word : BitVec (8 * width)) :
    toWord? width (ofWord word) = some word := by
  have h : word.toNat < 256 ^ width := by
    have := word.isLt
    rwa [Nat.pow_mul] at this
  simp [toWord?, ofWord, toNat_ofNat, Nat.mod_eq_of_lt h]

end Bytes

/-! ## Hexadecimal strings

`PgAdapt.Hex.encode` writes each byte as two lower-case digits; `PgAdapt.Hex.decode` reads digits of
either case, first checks that their number is even, and otherwise stops at the first character that
is no digit. `PgAdapt.Hex.decode_encode` says that what was written is read back.

Both directions also exist for a **slice**, a place of fixed length that the caller provides and
that is written over: `PgAdapt.Hex.encodeInto` and `PgAdapt.Hex.decodeInto`. A slice of any other
length than what is written is refused. One of the right length ends up with what the first two
functions give, whatever it held before: `PgAdapt.Hex.encodeInto_eq` and
`PgAdapt.Hex.decodeInto_eq`.
-/

namespace Hex

/-- The digit of a number below sixteen. -/
def digit (n : UInt8) : UInt8 := if n < 10 then n + 0x30 else n + 0x57

/-- The number of a digit of either case. -/
def value? (c : UInt8) : Option UInt8 :=
  if 0x30 ≤ c ∧ c ≤ 0x39 then some (c - 0x30)
  else if 0x41 ≤ c ∧ c ≤ 0x46 then some (c - 0x37)
  else if 0x61 ≤ c ∧ c ≤ 0x66 then some (c - 0x57)
  else none

/-- The two digits of each byte. -/
def encode (bytes : Bytes) : Bytes :=
  bytes.flatMap fun byte => [digit (byte / 16), digit (byte % 16)]

/-- Why a string of digits is refused. -/
inductive Fault where
  /-- There is an odd number of digits. -/
  | odd
  /-- The character at `index` is no digit. -/
  | invalid (character : UInt8) (index : Nat)
  /-- The slice does not have the length of what is written into it. -/
  | slice
  deriving DecidableEq, Repr

/-- The bytes of pairs of digits, the first of them at `index`. A digit without a partner does not
occur in a string of even length. -/
def decodeFrom (index : Nat) : Bytes → Except Fault Bytes
  | high :: low :: rest =>
    match value? high, value? low with
    | none, _ => .error (.invalid high index)
    | some _, none => .error (.invalid low (index + 1))
    | some h, some l => (decodeFrom (index + 2) rest).map fun tail => (16 * h + l) :: tail
  | [_] => .error .odd
  | [] => .ok []

/-- The bytes that a string of digits spells. -/
def decode (digits : Bytes) : Except Fault Bytes :=
  if digits.length % 2 = 0 then decodeFrom 0 digits else .error .odd

/-! ### Slices -/

/-- A slice with the digits of bytes written over it, two for each byte. -/
def encodeOver : (slice bytes : Bytes) → Bytes
  | _ :: _ :: slice, byte :: bytes =>
    digit (byte / 16) :: digit (byte % 16) :: encodeOver slice bytes
  | slice, _ => slice

/-- The digits of bytes, **written into a slice**. -/
def encodeInto (slice bytes : Bytes) : Except Fault Bytes :=
  if 2 * bytes.length ≠ slice.length then .error .slice else .ok (encodeOver slice bytes)

/-- A slice with the bytes of pairs of digits written over it, the first of the digits at
`index`. -/
def decodeOver (index : Nat) : (slice digits : Bytes) → Except Fault Bytes
  | _ :: slice, high :: low :: rest =>
    match value? high with
    | none => .error (.invalid high index)
    | some h =>
      match value? low with
      | none => .error (.invalid low (index + 1))
      | some l => (decodeOver (index + 2) slice rest).map fun tail => (16 * h + l) :: tail
  | slice, _ => .ok slice

/-- The bytes that a string of digits spells, **written into a slice**. -/
def decodeInto (slice digits : Bytes) : Except Fault Bytes :=
  if digits.length % 2 ≠ 0 then .error .odd
  else if digits.length / 2 ≠ slice.length then .error .slice
  else decodeOver 0 slice digits

/-! ### What was written is read back -/

theorem value?_digit_div (byte : UInt8) : value? (digit (byte / 16)) = some (byte / 16) := by
  revert byte; decide +kernel

theorem value?_digit_mod (byte : UInt8) : value? (digit (byte % 16)) = some (byte % 16) := by
  revert byte; decide +kernel

theorem decodeFrom_encode (index : Nat) (bytes : Bytes) :
    decodeFrom index (encode bytes) = .ok bytes := by
  induction bytes generalizing index with
  | nil => simp [encode, decodeFrom]
  | cons byte bytes ih =>
    have h : 16 * (byte / 16) + byte % 16 = byte := by revert byte; decide +kernel
    have ih := ih (index + 2)
    rw [encode] at ih
    simp [encode, decodeFrom, value?_digit_div, value?_digit_mod, ih, Except.map, h]

theorem length_encode (bytes : Bytes) : (encode bytes).length = 2 * bytes.length := by
  induction bytes with
  | nil => rfl
  | cons byte bytes ih => simp [encode] at ih ⊢; omega

/-- What was written is read back. -/
theorem decode_encode (bytes : Bytes) : decode (encode bytes) = .ok bytes := by
  rw [decode, if_pos (by rw [length_encode]; omega), decodeFrom_encode]

/-! ### Slices of the right length -/

theorem encodeOver_eq {slice bytes : Bytes} (h : 2 * bytes.length = slice.length) :
    encodeOver slice bytes = encode bytes := by
  induction bytes generalizing slice with
  | nil =>
    obtain rfl : slice = [] := List.eq_nil_of_length_eq_zero h.symm
    rfl
  | cons byte bytes ih =>
    match slice, h with
    | _ :: _ :: slice, h =>
      have hrest : 2 * bytes.length = slice.length := by
        simp only [List.length_cons] at h
        omega
      rw [encodeOver, ih hrest]
      rfl

/-- **A slice of the right length ends up with the digits.** -/
theorem encodeInto_eq {slice bytes : Bytes} (h : 2 * bytes.length = slice.length) :
    encodeInto slice bytes = .ok (encode bytes) := by
  rw [encodeInto, if_neg (not_not_intro h), encodeOver_eq h]

/-- Digits are taken in pairs, so the slice is full when none is left. -/
theorem decodeOver_eq (index : Nat) {slice digits : Bytes}
    (h : digits.length = 2 * slice.length) :
    decodeOver index slice digits = decodeFrom index digits := by
  induction slice generalizing index digits with
  | nil =>
    obtain rfl : digits = [] := List.eq_nil_of_length_eq_zero h
    rfl
  | cons place slice ih =>
    match digits, h with
    | high :: low :: rest, h =>
      have hrest : rest.length = 2 * slice.length := by
        simp only [List.length_cons] at h
        omega
      rw [decodeOver, decodeFrom, ih (index + 2) hrest]
      cases value? high with
      | none => rfl
      | some h => cases value? low <;> rfl

/-- **A slice of the right length ends up with the bytes**, or the digits are refused as they are
without a slice. -/
theorem decodeInto_eq {slice digits : Bytes} (h : digits.length / 2 = slice.length) :
    decodeInto slice digits = decode digits := by
  rw [decodeInto, decode]
  by_cases heven : digits.length % 2 = 0
  · rw [if_neg (not_not_intro heven), if_neg (not_not_intro h), if_pos heven]
    exact decodeOver_eq 0 (by omega)
  · rw [if_pos heven, if_neg heven]

end Hex

end PgAdapt
