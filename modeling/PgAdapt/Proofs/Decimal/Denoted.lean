import Mathlib.Data.Nat.Digits.Defs
import PgAdapt.Proofs.Decimal.Agreement

/-!
# The number that is accumulated

The reader that works on bytes goes through the digits once, in a register that may overflow, and
narrows what it has at the end. What it gives has nothing to do with registers: the number that the
string of bytes denotes in positional notation, `PgAdapt.Decimal.Denotes`, if the type has that
number, and nothing otherwise. In particular the register never gives up on a number of the type,
however many zeros stand in front of it, and never comes back from a number that it does not hold:
`PgAdapt.Decimal.accumulate?_denotes`.
-/

namespace PgAdapt

namespace IntType

/-! ### Numbers and words -/

/-- A number in the range of a type is got back from its word. -/
theorem toInt_ofInt {t : IntType} {n : Int} (hleast : t.least ≤ n) (hgreatest : n ≤ t.greatest) :
    t.toInt (.ofInt _ n) = n := by
  cases hs : t.isSigned <;>
    simp only [least, greatest, toInt, hs, Nat.pow_eq, if_true, Bool.false_eq_true, if_false] at *
  · rw [BitVec.toNat_ofInt, Int.toNat_of_nonneg (Int.emod_nonneg _ (by positivity))]
    exact Int.emod_eq_of_lt hleast (by omega)
  · have hbits : 0 < 8 * t.bytes := by cases t <;> decide
    have hpow : 2 ^ (8 * t.bytes) = 2 * 2 ^ (8 * t.bytes - 1) := by
      rw [← Nat.pow_succ', Nat.succ_eq_add_one, Nat.sub_add_cancel hbits]
    rw [BitVec.toInt_ofInt]
    exact Int.bmod_eq_of_le (by omega) (by omega)

/-- The word for a number is the word that stands for it. -/
theorem ofInt?_eq_some_iff {t : IntType} {n : Int} {word : t.Word} :
    t.ofInt? n = some word ↔ t.toInt word = n := by
  constructor
  · intro h
    rw [ofInt?] at h
    split_ifs at h with hrange
    rw [← Option.some.inj h]
    exact toInt_ofInt hrange.1 hrange.2
  · rintro rfl
    exact t.ofInt?_toInt word

end IntType

namespace Decimal

/-! ### Positional notation -/

/-- The number of digits in **positional notation**: the last digit counts once, the one before it
ten times, and so on. -/
def positional (digits : Bytes) : Nat :=
  Nat.ofDigits 10 (digits.reverse.map fun byte => byte.toNat - 0x30)

/-- Going through the digits from the left gives the number in positional notation. -/
theorem spelled_eq_positional (n : Nat) (digits : Bytes) :
    spelled n digits = 10 ^ digits.length * n + positional digits := by
  induction digits generalizing n with
  | nil => simp [spelled, positional]
  | cons byte rest ih =>
    have hcons : positional (byte :: rest) =
        positional rest + 10 ^ rest.length * (byte.toNat - 0x30) := by
      rw [positional, List.reverse_cons, List.map_append, Nat.ofDigits_append, List.length_map,
        List.length_reverse, List.map_singleton, Nat.ofDigits_singleton]
      rfl
    have hspelled : spelled n (byte :: rest) = spelled (10 * n + (byte.toNat - 0x30)) rest := rfl
    rw [hspelled, ih, hcons, List.length_cons, Nat.pow_succ]
    ring

/-- What may stand in front of digits. -/
inductive Sign where
  | none
  | plus
  | minus

namespace Sign

/-- The bytes of a sign. -/
def bytes : Sign → Bytes
  | .none => []
  | .plus => Bytes.ascii ['+']
  | .minus => Bytes.ascii ['-']

/-- The number with a sign. -/
def apply : Sign → Nat → Int
  | .none, n | .plus, n => n
  | .minus, n => -n

end Sign

/-- The number that a string of bytes **denotes**: digits, at least one, in positional notation,
behind a sign if there is one. -/
inductive Denotes : Bytes → Int → Prop where
  | intro (sign : Sign) {digits : Bytes} (hne : digits ≠ [])
      (hdigits : ∀ byte ∈ digits, 0x30 ≤ byte ∧ byte ≤ 0x39) :
      Denotes (sign.bytes ++ digits) (sign.apply (positional digits))

theorem digits_iff {digits : Bytes} :
    Digits digits ↔ digits ≠ [] ∧ ∀ byte ∈ digits, 0x30 ≤ byte ∧ byte ≤ 0x39 := by
  simp [Digits, isDigit]

/-- What is spelled is what is denoted. -/
theorem spells_iff_denotes {data : Bytes} {n : Int} : Spells data n ↔ Denotes data n := by
  have hspelled (digits : Bytes) : spelled 0 digits = positional digits := by
    rw [spelled_eq_positional, Nat.mul_zero, Nat.zero_add]
  constructor
  · rintro (hdigits | hdigits | hdigits) <;> rw [hspelled] <;>
      obtain ⟨hne, hall⟩ := digits_iff.mp hdigits
    · exact .intro .none hne hall
    · exact .intro .plus hne hall
    · exact .intro .minus hne hall
  · rintro ⟨sign, hne, hall⟩
    have hdigits := digits_iff.mpr ⟨hne, hall⟩
    rw [← hspelled]
    cases sign with
    | none => exact .plain hdigits
    | plus => exact .plus hdigits
    | minus => exact .minus hdigits

/-! ### Leading zeros -/

/-- A number in decimal with **zeros in front**, and a minus sign if it is below zero. -/
def padded (zeros : Nat) : Int → Bytes
  | .ofNat n => List.replicate zeros 0x30 ++ Bytes.decimal n
  | .negSucc n => 0x2D :: (List.replicate zeros 0x30 ++ Bytes.decimal (n + 1))

theorem digits_replicate_append_decimal (zeros n : Nat) :
    Digits (List.replicate zeros 0x30 ++ Bytes.decimal n) := by
  have hne : Bytes.decimal n ≠ [] := mt List.map_eq_nil_iff.mp Nat.toDigits_ne_nil
  refine ⟨List.append_ne_nil_of_right_ne_nil _ hne, ?_⟩
  rw [List.all_append, all_isDigit_replicate_zero, all_isDigit_decimal]
  rfl

/-- Zeros in front do not count. -/
theorem spelled_replicate_append_decimal (zeros n : Nat) :
    spelled 0 (List.replicate zeros 0x30 ++ Bytes.decimal n) = n := by
  have hzeros : spelled 0 (List.replicate zeros 0x30) = 0 := spelled_replicate_zero zeros
  rw [spelled] at hzeros ⊢
  rw [List.foldl_append, hzeros]
  exact spelled_decimal n

theorem spells_padded (zeros : Nat) (n : Int) : Spells (padded zeros n) n := by
  cases n with
  | ofNat n =>
    have hspells := Spells.plain (digits_replicate_append_decimal zeros n)
    rwa [spelled_replicate_append_decimal] at hspells
  | negSucc n =>
    have hspells := Spells.minus (digits_replicate_append_decimal zeros (n + 1))
    rwa [spelled_replicate_append_decimal] at hspells

/-- A string of bytes spells one number only. -/
theorem Spells.unique {data : Bytes} {n m : Int} (h : Spells data n) (h' : Spells data m) :
    n = m := by
  have hsign {byte : UInt8} {rest : Bytes} (hbyte : isDigit byte = false)
      (hdigits : Digits (byte :: rest)) : n = m := by
    obtain ⟨_, _, heq, hdigit⟩ := hdigits.exists_eq_cons
    rw [← (List.cons.inj heq).1, hbyte] at hdigit
    cases hdigit
  rcases h with hdigits | hdigits | hdigits
  · rcases h' with hdigits' | hdigits' | hdigits'
    · rfl
    · exact hsign rfl hdigits
    · exact hsign rfl hdigits
  · rcases h' with hdigits' | hdigits' | hdigits'
    · exact hsign rfl hdigits'
    · rfl
  · rcases h' with hdigits' | hdigits' | hdigits'
    · exact hsign rfl hdigits'
    · rfl

/-! ### The reader that works on bytes -/

/-- **The exact meaning of the reader that works on bytes.** It reads a string of bytes exactly if
the string denotes a number in the range of the type, and the word that it gives is the one for that
number. No step on the way counts: a number in the range is read with any number of zeros in front
of it, the least and the greatest number included, and a number outside is never read. -/
theorem accumulate?_denotes (t : IntType) :
    (∀ data, (∃ word, accumulate? t data = some word) ↔
      ∃ n, Denotes data n ∧ t.least ≤ n ∧ n ≤ t.greatest) ∧
    (∀ data word, accumulate? t data = some word ↔ Denotes data (t.toInt word)) ∧
    ∀ zeros n, accumulate? t (padded zeros n) =
      if t.least ≤ n ∧ n ≤ t.greatest then some (.ofInt _ n) else none := by
  refine ⟨fun data => ?_, fun data word => ?_, fun zeros n => ?_⟩
  · simp only [accumulate?_eq_some_iff, spells_iff_denotes]
    constructor
    · rintro ⟨word, n, hn, hword⟩
      rw [IntType.ofInt?] at hword
      split_ifs at hword with hrange
      exact ⟨n, hn, hrange⟩
    · rintro ⟨n, hn, hrange⟩
      exact ⟨_, n, hn, if_pos hrange⟩
  · rw [accumulate?_eq_some_iff, ← spells_iff_denotes]
    constructor
    · rintro ⟨n, hn, hword⟩
      rwa [IntType.ofInt?_eq_some_iff.mp hword]
    · intro h
      exact ⟨_, h, t.ofInt?_toInt word⟩
  · refine Option.ext fun word => ?_
    rw [accumulate?_eq_some_iff]
    constructor
    · rintro ⟨m, hm, hword⟩
      rwa [hm.unique (spells_padded zeros n)] at hword
    · intro hword
      exact ⟨n, spells_padded zeros n, hword⟩

/-- The least number of eight bytes is read behind two zeros, on which the register ends exactly. -/
example : accumulate? .int64 (padded 2 (-0x8000000000000000)) =
    some (.ofInt _ (-0x8000000000000000)) := by
  decide

end Decimal

end PgAdapt
