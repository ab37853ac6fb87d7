import Mathlib.Tactic.SplitIfs
import PgAdapt.Proofs.Text.Utf8
import PgAdapt.Scalar.Number

/-!
# Whole numbers, written and read

The register in which digits are accumulated does not depend on its steps, but for an overflow. With
this both readers take back the numbers that have been written.
-/

namespace PgAdapt

/-! ## The register that accumulates digits

`PgAdapt.Decimal.append?` works in a register of eight bytes and gives up when the register
overflows. The number in the register only moves away from zero, so it overflows on the way
exactly if the result does not fit: `PgAdapt.Decimal.append?_eq` gives the result in closed form,
with nothing left of the steps.
-/

namespace Decimal

/-! ### The register -/

/-- The register **holds** a number. -/
def Holds (n : Int) : Prop := -0x8000000000000000 ≤ n ∧ n ≤ 0x7FFFFFFFFFFFFFFF

instance (n : Int) : Decidable (Holds n) := inferInstanceAs (Decidable (_ ∧ _))

theorem register?_eq (n : Int) : register? n = if Holds n then some n else none := by
  have hleast : IntType.int64.least = -0x8000000000000000 := by decide
  have hgreatest : IntType.int64.greatest = 0x7FFFFFFFFFFFFFFF := by decide
  have hholds : (-0x8000000000000000 ≤ n ∧ n ≤ 0x7FFFFFFFFFFFFFFF) = Holds n := rfl
  rw [register?, IntType.ofInt?, hleast, hgreatest]
  simp only [hholds]
  by_cases h : Holds n
  · have hword : IntType.int64.toInt (.ofInt _ n) = n := by
      have : IntType.int64.toInt (.ofInt _ n) = (BitVec.ofInt 64 n).toInt := rfl
      rw [this, BitVec.toInt_ofInt]
      have := h.1
      have := h.2
      exact Int.bmod_eq_of_le (by omega) (by omega)
    rw [if_pos h, if_pos h, Option.map_some, hword]
  · rw [if_neg h, if_neg h, Option.map_none]

/-! ### Digits -/

/-- Whether a byte is a digit. -/
def isDigit (byte : UInt8) : Bool := 0x30 ≤ byte && byte ≤ 0x39

/-- The number that digits spell, with `n` spelled by the digits before. -/
def spelled (n : Nat) (digits : Bytes) : Nat :=
  digits.foldl (fun n byte => 10 * n + (byte.toNat - 0x30)) n

theorem digit?_of_isDigit {byte : UInt8} (h : isDigit byte = true) :
    digit? byte = some ((byte.toNat - 0x30 : Nat) : Int) := by
  simp only [isDigit, Bool.and_eq_true, decide_eq_true_eq] at h
  have hle : 0x30 ≤ byte.toNat := UInt8.le_iff_toNat_le.mp h.1
  rw [digit?, if_pos h, Int.ofNat_sub hle]
  rfl

theorem digit?_of_not_isDigit {byte : UInt8} (h : isDigit byte = false) : digit? byte = none := by
  rw [digit?, if_neg]
  rintro ⟨hleast, hgreatest⟩
  simp [isDigit, hleast, hgreatest] at h

theorem le_spelled (n : Nat) (digits : Bytes) : n ≤ spelled n digits := by
  induction digits generalizing n with
  | nil => exact Nat.le_refl n
  | cons byte rest ih =>
    have := ih (10 * n + (byte.toNat - 0x30))
    rw [spelled, List.foldl_cons]
    exact Nat.le_trans (by omega) this

/-- A number on either side of zero. -/
def onSide (negative : Bool) (n : Nat) : Int := if negative then -(n : Int) else n

theorem onSide_mul_ten (negative : Bool) (n : Nat) :
    onSide negative n * 10 = onSide negative (10 * n) := by
  cases negative with
  | false =>
    simp [onSide]
    omega
  | true =>
    simp [onSide]
    omega

theorem onSide_add (negative : Bool) (n k : Nat) :
    (if negative then onSide negative n - k else onSide negative n + k) =
      onSide negative (n + k) := by
  cases negative with
  | false => simp [onSide]
  | true =>
    simp [onSide]
    omega

/-- The register holds what is closer to zero. -/
theorem Holds.of_le {negative : Bool} {n k : Nat} (h : Holds (onSide negative k)) (hle : n ≤ k) :
    Holds (onSide negative n) := by
  cases negative <;> simp only [Holds, onSide] at h ⊢ <;> constructor <;> simp at h ⊢ <;> omega

/-- **Appending digits to a register** gives the number that they spell, unless there is something
else among them or the register does not hold the number. -/
theorem append?_eq (negative : Bool) (digits : Bytes) (n : Nat) (h : Holds (onSide negative n)) :
    append? negative (onSide negative n) digits =
      if digits.all isDigit ∧ Holds (onSide negative (spelled n digits)) then
        some (onSide negative (spelled n digits))
      else none := by
  induction digits generalizing n with
  | nil => rw [append?, if_pos ⟨rfl, h⟩]; rfl
  | cons byte rest ih =>
    cases hbyte : isDigit byte with
    | false =>
      rw [append?, digit?_of_not_isDigit hbyte, if_neg (by simp [hbyte])]
      rfl
    | true =>
      -- Whether the register overflows at once or later on, the result does not fit either.
      have hspelled : spelled n (byte :: rest) = spelled (10 * n + (byte.toNat - 0x30)) rest := rfl
      rw [append?, digit?_of_isDigit hbyte, hspelled, List.all_cons, hbyte, Bool.true_and]
      by_cases hnext : Holds (onSide negative (10 * n + (byte.toNat - 0x30)))
      · have hshifted : Holds (onSide negative (10 * n)) := hnext.of_le (Nat.le_add_right _ _)
        simp only [Option.bind_eq_bind, Option.bind_some, register?_eq, onSide_mul_ten,
          if_pos hshifted, onSide_add, if_pos hnext]
        exact ih _ hnext
      · rw [if_neg fun h => hnext (h.2.of_le (le_spelled _ rest))]
        by_cases hshifted : Holds (onSide negative (10 * n))
        · simp only [Option.bind_eq_bind, Option.bind_some, register?_eq, onSide_mul_ten,
            if_pos hshifted, onSide_add, if_neg hnext, Option.bind_none]
        · simp only [Option.bind_eq_bind, Option.bind_some, register?_eq, onSide_mul_ten,
            if_neg hshifted, Option.bind_none]

end Decimal

/-! ## Decimal numbers that have been written are read back

Both readers of whole numbers read what `PgAdapt.Bytes.signedDecimal` writes:
`PgAdapt.Decimal.read?_signedDecimal` and `PgAdapt.Decimal.accumulate?_signedDecimal`. The digits
come from `Nat.toDigits`, and what is known of them there is enough: they are digits, there is at
least one, and they spell the number.
-/

/-! ### ASCII characters as bytes -/

/-- ASCII characters are written as one byte each. -/
theorem Bytes.ascii_eq_encode {cs : List Char} (h : ∀ c ∈ cs, c.toNat < 0x80) :
    Bytes.ascii cs = Utf8.encode (String.ofList cs) := by
  rw [Utf8.encode, String.toList_ofList]
  induction cs with
  | nil => rfl
  | cons c cs ih =>
    rw [List.forall_mem_cons] at h
    have hc : String.utf8EncodeChar c = [c.toUInt8] := by
      have hle : c.val.toNat ≤ 0x7f := Nat.le_of_lt_succ h.1
      rw [String.utf8EncodeChar]
      simp only [if_pos hle]
      rfl
    rw [List.flatMap_cons, hc, ← ih h.2]
    rfl

theorem Utf8.decode?_ascii {cs : List Char} (h : ∀ c ∈ cs, c.toNat < 0x80) :
    Utf8.decode? (Bytes.ascii cs) = some (String.ofList cs) := by
  rw [Bytes.ascii_eq_encode h, Utf8.decode?, Utf8.decode_encode]
  rfl

namespace Decimal

/-! ### The digits of a number -/

/-- The digits of a number in decimal. -/
abbrev digits (n : Nat) : List Char := Nat.toDigits 10 n

theorem isDigit_of_mem_digits {n : Nat} {c : Char} (h : c ∈ digits n) : c.isDigit = true :=
  Nat.isDigit_of_mem_toDigits (by decide) (by decide) h

theorem toNat_of_isDigit {c : Char} (h : c.isDigit = true) : 0x30 ≤ c.toNat ∧ c.toNat ≤ 0x39 := by
  simp only [Char.isDigit, Bool.and_eq_true, decide_eq_true_eq] at h
  exact h

theorem toNat_lt_of_isDigit {c : Char} (h : c.isDigit = true) : c.toNat < 0x80 := by
  have := (toNat_of_isDigit h).2
  omega

/-- The first digit is no sign. -/
theorem exists_digits_eq_cons (n : Nat) :
    ∃ c cs, digits n = c :: cs ∧ c ≠ '+' ∧ c ≠ '-' := by
  obtain ⟨c, cs, hcs⟩ := List.exists_cons_of_ne_nil (Nat.toDigits_ne_nil (n := n) (b := 10))
  have hmem : c ∈ digits n := by
    rw [digits, hcs]
    exact List.mem_cons_self
  have hc : c.isDigit = true := isDigit_of_mem_digits hmem
  refine ⟨c, cs, hcs, ?_, ?_⟩ <;> rintro rfl <;> exact absurd hc (by decide)

/-! ### On characters -/

theorem unsigned?_digits (n : Nat) : unsigned? (digits n) = some n := by
  have hempty : (digits n).isEmpty = false := by
    rw [List.isEmpty_eq_false_iff]
    exact Nat.toDigits_ne_nil
  have hall : (digits n).all Char.isDigit = true :=
    List.all_eq_true.mpr fun c hc => isDigit_of_mem_digits hc
  have hvalue : valueOf (digits n) = n := Nat.ofDigitChars_toDigits (by decide) (by decide)
  rw [unsigned?, hempty, hall, hvalue]
  rfl

theorem integer?_digits (isSigned : Bool) (n : Nat) :
    integer? isSigned (digits n) = some (n : Int) := by
  have hunsigned := unsigned?_digits n
  obtain ⟨c, cs, hcs, hplus, hminus⟩ := exists_digits_eq_cons n
  rw [hcs] at hunsigned ⊢
  rw [integer?, hunsigned]
  · rfl
  · rintro digits h
    cases h
    exact hplus rfl
  · rintro digits h
    cases h
    exact hminus rfl

/-- A type with a negative number has a sign. -/
theorem isSigned_of_toInt_eq_negSucc {t : IntType} {word : t.Word} {n : Nat}
    (h : t.toInt word = .negSucc n) : t.isSigned = true := by
  cases hs : t.isSigned with
  | true => rfl
  | false =>
    rw [IntType.toInt, hs] at h
    cases h

theorem decode?_decimal (n : Nat) :
    Utf8.decode? (Bytes.decimal n) = some (String.ofList (digits n)) :=
  Utf8.decode?_ascii fun _ hc => toNat_lt_of_isDigit (isDigit_of_mem_digits hc)

theorem decode?_minus_decimal (n : Nat) :
    Utf8.decode? (Bytes.ascii ['-'] ++ Bytes.decimal n) =
      some (String.ofList ('-' :: digits n)) := by
  change Utf8.decode? (Bytes.ascii ('-' :: digits n)) = _
  refine Utf8.decode?_ascii (List.forall_mem_cons.mpr ⟨by decide, fun c hc => ?_⟩)
  exact toNat_lt_of_isDigit (isDigit_of_mem_digits hc)

/-- **What is written is read back**, by the reader that works on characters. -/
theorem read?_signedDecimal (t : IntType) (word : t.Word) :
    read? t (Bytes.signedDecimal (t.toInt word)) = some word := by
  have hword := IntType.ofInt?_toInt t word
  cases hn : t.toInt word with
  | ofNat n =>
    rw [hn] at hword
    rw [Bytes.signedDecimal, read?, decode?_decimal]
    simpa [integer?_digits] using hword
  | negSucc n =>
    have hsigned := isSigned_of_toInt_eq_negSucc hn
    rw [hn, Int.negSucc_eq] at hword
    rw [Bytes.signedDecimal, read?, decode?_minus_decimal]
    simpa [integer?, hsigned, unsigned?_digits] using hword

/-! ### On bytes -/

theorem toNat_toUInt8 {c : Char} (h : c.isDigit = true) : c.toUInt8.toNat = c.toNat := by
  have hlt : c.val.toNat < 0x80 := toNat_lt_of_isDigit h
  change c.val.toUInt8.toNat = c.val.toNat
  rw [UInt32.toNat_toUInt8]
  exact Nat.mod_eq_of_lt (by omega)

theorem isDigit_toUInt8 {c : Char} (h : c.isDigit = true) : isDigit c.toUInt8 = true := by
  simp only [isDigit, Bool.and_eq_true, decide_eq_true_eq, UInt8.le_iff_toNat_le, toNat_toUInt8 h]
  exact toNat_of_isDigit h

theorem all_isDigit_decimal (n : Nat) : (Bytes.decimal n).all isDigit = true := by
  rw [Bytes.decimal, Bytes.ascii, List.all_map, List.all_eq_true]
  exact fun c hc => isDigit_toUInt8 (isDigit_of_mem_digits hc)

/-- Digits spell the same number as bytes. -/
theorem spelled_ascii {cs : List Char} (h : ∀ c ∈ cs, c.isDigit = true) (n : Nat) :
    spelled n (Bytes.ascii cs) = cs.foldl (fun n c => 10 * n + (c.toNat - '0'.toNat)) n := by
  induction cs generalizing n with
  | nil => rfl
  | cons c cs ih =>
    rw [List.forall_mem_cons] at h
    rw [List.foldl_cons, ← ih h.2, ← toNat_toUInt8 h.1]
    rfl

theorem spelled_decimal (n : Nat) : spelled 0 (Bytes.decimal n) = n := by
  rw [Bytes.decimal, spelled_ascii fun _ hc => isDigit_of_mem_digits hc]
  exact Nat.ofDigitChars_toDigits (by decide) (by decide)

/-- The register holds the numbers of every type. -/
theorem holds_of_ofInt?_eq_some {t : IntType} {n : Int} {word : t.Word}
    (h : t.ofInt? n = some word) : Holds n := by
  have hrange : t.least ≤ n ∧ n ≤ t.greatest := by
    rw [IntType.ofInt?] at h
    split_ifs at h with hrange
    exact hrange
  have hleast : -0x8000000000000000 ≤ t.least := by cases t <;> decide
  have hgreatest : t.greatest ≤ 0x7FFFFFFFFFFFFFFF := by cases t <;> decide
  exact ⟨Int.le_trans hleast hrange.1, Int.le_trans hrange.2 hgreatest⟩

/-- The digits of a number are appended to an empty register. -/
theorem append?_decimal {negative : Bool} {n : Nat} (h : Holds (onSide negative n)) :
    append? negative 0 (Bytes.decimal n) = some (onSide negative n) := by
  have hzero : onSide negative 0 = 0 := by cases negative <;> rfl
  have happend := append?_eq negative (Bytes.decimal n) 0 (h.of_le (Nat.zero_le n))
  rw [hzero, spelled_decimal, if_pos ⟨all_isDigit_decimal n, h⟩] at happend
  exact happend

theorem accumulate?_minus (t : IntType) {rest : Bytes} (h : rest ≠ []) :
    accumulate? t (0x2D :: rest) = (append? true 0 rest).bind t.ofInt? := by
  have hempty : rest.isEmpty = false := List.isEmpty_eq_false_iff.mpr h
  simp only [accumulate?, hempty]
  rfl

theorem accumulate?_plus (t : IntType) {rest : Bytes} (h : rest ≠ []) :
    accumulate? t (0x2B :: rest) = (append? false 0 rest).bind t.ofInt? := by
  have hempty : rest.isEmpty = false := List.isEmpty_eq_false_iff.mpr h
  simp only [accumulate?, hempty]
  rfl

theorem accumulate?_of_ne (t : IntType) {byte : UInt8} (hminus : byte ≠ 0x2D) (hplus : byte ≠ 0x2B)
    (rest : Bytes) :
    accumulate? t (byte :: rest) = (append? false 0 (byte :: rest)).bind t.ofInt? := by
  rw [accumulate?]
  · rfl
  · intro digits heq
    exact hminus (List.cons.inj heq).1
  · intro digits heq
    exact hplus (List.cons.inj heq).1

/-- A digit is no sign. -/
theorem ne_sign_of_isDigit {byte : UInt8} (h : isDigit byte = true) :
    byte ≠ 0x2D ∧ byte ≠ 0x2B := by
  constructor
  · rintro rfl
    exact absurd h (by decide)
  · rintro rfl
    exact absurd h (by decide)

theorem accumulate?_of_isDigit (t : IntType) {byte : UInt8} (h : isDigit byte = true)
    (rest : Bytes) :
    accumulate? t (byte :: rest) = (append? false 0 (byte :: rest)).bind t.ofInt? :=
  accumulate?_of_ne t (ne_sign_of_isDigit h).1 (ne_sign_of_isDigit h).2 rest

/-- **What is written is read back**, by the reader that works on bytes. -/
theorem accumulate?_signedDecimal (t : IntType) (word : t.Word) :
    accumulate? t (Bytes.signedDecimal (t.toInt word)) = some word := by
  have hword := IntType.ofInt?_toInt t word
  have hholds := holds_of_ofInt?_eq_some hword
  have hne (n : Nat) : Bytes.decimal n ≠ [] := by
    rw [Bytes.decimal, Bytes.ascii, Ne, List.map_eq_nil_iff]
    exact Nat.toDigits_ne_nil
  cases hn : t.toInt word with
  | ofNat n =>
    rw [hn] at hword hholds
    obtain ⟨byte, rest, hrest⟩ := List.exists_cons_of_ne_nil (hne n)
    have hbyte : isDigit byte = true := by
      have := all_isDigit_decimal n
      rw [hrest, List.all_cons, Bool.and_eq_true] at this
      exact this.1
    have happend : append? false 0 (Bytes.decimal n) = some (n : Int) := append?_decimal hholds
    rw [Bytes.signedDecimal, hrest, accumulate?_of_isDigit t hbyte, ← hrest, happend]
    exact hword
  | negSucc n =>
    rw [hn] at hword hholds
    have happend : append? true 0 (Bytes.decimal (n + 1)) = some (Int.negSucc n) :=
      append?_decimal hholds
    change accumulate? t (0x2D :: Bytes.decimal (n + 1)) = _
    rw [accumulate?_minus t (hne (n + 1)), happend]
    exact hword

end Decimal

end PgAdapt
