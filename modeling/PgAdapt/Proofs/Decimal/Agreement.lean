import Mathlib.Tactic.ByContra
import PgAdapt.Proofs.Decimal.Written

/-!
# The readers of whole numbers compared

Each reader of whole numbers takes signed digits and nothing else. The two differ on a minus sign in
front of nothing but zeros, and nowhere else (`PgAdapt.IntType.textLoader_load_agree`).
-/

namespace PgAdapt

/-! ## What the readers of whole numbers take

A string of bytes spells a number if it consists of digits, at least one, after a sign if there is
one: `PgAdapt.Decimal.Spells`. Both readers take such strings and nothing else, provided the type
has the number. The reader that works on bytes takes all of them
(`PgAdapt.Decimal.accumulate?_eq_some_iff`); the one that works on characters takes no minus sign
if the type has no negative numbers (`PgAdapt.Decimal.read?_eq_some_iff`).
-/

namespace Decimal

/-! ### Numbers that are spelled -/

/-- Digits, and at least one of them. -/
def Digits (digits : Bytes) : Prop := digits ≠ [] ∧ digits.all isDigit = true

/-- The number that a string of bytes **spells**. -/
inductive Spells : Bytes → Int → Prop where
  /-- Digits. -/
  | plain {digits : Bytes} (h : Digits digits) : Spells digits (spelled 0 digits)
  /-- Digits after a plus sign. -/
  | plus {digits : Bytes} (h : Digits digits) : Spells (0x2B :: digits) (spelled 0 digits)
  /-- Digits after a minus sign. -/
  | minus {digits : Bytes} (h : Digits digits) : Spells (0x2D :: digits) (-(spelled 0 digits : Int))

/-- Digits do not start with a sign. -/
theorem Digits.exists_eq_cons {digits : Bytes} (h : Digits digits) :
    ∃ byte rest, digits = byte :: rest ∧ isDigit byte = true := by
  obtain ⟨hne, hall⟩ := h
  obtain ⟨byte, rest, rfl⟩ := List.exists_cons_of_ne_nil hne
  rw [List.all_cons, Bool.and_eq_true] at hall
  exact ⟨byte, rest, rfl, hall.1⟩

/-! ### The reader that works on bytes -/

/-- The register, narrowed to a type, is the number that the digits spell, if the type has it. -/
theorem append?_bind_ofInt?_eq_some_iff {t : IntType} {negative : Bool} {digits : Bytes}
    {word : t.Word} :
    (append? negative 0 digits).bind t.ofInt? = some word ↔
      digits.all isDigit = true ∧ t.ofInt? (onSide negative (spelled 0 digits)) = some word := by
  have hzero : onSide negative 0 = 0 := by cases negative <;> rfl
  have hholds : Holds (onSide negative 0) := by
    rw [hzero]
    decide
  have happend := append?_eq negative digits 0 hholds
  rw [hzero] at happend
  rw [happend]
  constructor
  · intro h
    split_ifs at h with hdigits
    · exact ⟨hdigits.1, h⟩
    · cases h
  · rintro ⟨hall, hword⟩
    rw [if_pos ⟨hall, holds_of_ofInt?_eq_some hword⟩]
    exact hword

/-- **The reader that works on bytes** takes what spells a number of the type. -/
theorem accumulate?_eq_some_iff {t : IntType} {data : Bytes} {word : t.Word} :
    accumulate? t data = some word ↔ ∃ n, Spells data n ∧ t.ofInt? n = some word := by
  constructor
  · intro h
    rcases data with _ | ⟨byte, rest⟩
    · cases h
    by_cases hminus : byte = 0x2D
    · subst hminus
      rcases rest with _ | ⟨first, rest⟩
      · cases h
      · rw [accumulate?_minus t (List.cons_ne_nil first rest),
          append?_bind_ofInt?_eq_some_iff] at h
        exact ⟨_, .minus ⟨List.cons_ne_nil first rest, h.1⟩, h.2⟩
    by_cases hplus : byte = 0x2B
    · subst hplus
      rcases rest with _ | ⟨first, rest⟩
      · cases h
      · rw [accumulate?_plus t (List.cons_ne_nil first rest),
          append?_bind_ofInt?_eq_some_iff] at h
        exact ⟨_, .plus ⟨List.cons_ne_nil first rest, h.1⟩, h.2⟩
    rw [accumulate?_of_ne t hminus hplus, append?_bind_ofInt?_eq_some_iff] at h
    exact ⟨_, .plain ⟨List.cons_ne_nil byte rest, h.1⟩, h.2⟩
  · rintro ⟨n, hspells, hword⟩
    rcases hspells with hdigits | hdigits | hdigits
    · obtain ⟨byte, rest, rfl, hbyte⟩ := hdigits.exists_eq_cons
      rw [accumulate?_of_isDigit t hbyte, append?_bind_ofInt?_eq_some_iff]
      exact ⟨hdigits.2, hword⟩
    · rw [accumulate?_plus t hdigits.1, append?_bind_ofInt?_eq_some_iff]
      exact ⟨hdigits.2, hword⟩
    · rw [accumulate?_minus t hdigits.1, append?_bind_ofInt?_eq_some_iff]
      exact ⟨hdigits.2, hword⟩

/-! ### The reader that works on characters -/

theorem unsigned?_eq_some_iff {cs : List Char} {n : Nat} :
    unsigned? cs = some n ↔ cs ≠ [] ∧ (∀ c ∈ cs, c.isDigit = true) ∧ valueOf cs = n := by
  rw [unsigned?]
  split_ifs with h
  · rw [Bool.or_eq_true, List.isEmpty_iff, Bool.not_eq_true', ← Bool.not_eq_true,
      List.all_eq_true] at h
    constructor
    · intro hn
      cases hn
    · rintro ⟨hne, hall, -⟩
      rcases h with h | h
      · exact absurd h hne
      · exact absurd hall h
  · rw [Bool.or_eq_true, List.isEmpty_iff, Bool.not_eq_true', ← Bool.not_eq_true,
      List.all_eq_true, not_or, not_not] at h
    rw [Option.some.injEq]
    exact ⟨fun hn => ⟨h.1, h.2, hn⟩, fun hn => hn.2.2⟩

theorem digits_ascii {cs : List Char} (hne : cs ≠ []) (hall : ∀ c ∈ cs, c.isDigit = true) :
    Digits (Bytes.ascii cs) := by
  refine ⟨mt List.map_eq_nil_iff.mp hne, ?_⟩
  rw [Bytes.ascii, List.all_map, List.all_eq_true]
  exact fun c hc => isDigit_toUInt8 (hall c hc)

/-- Digits are characters, one byte each. -/
theorem Digits.exists_eq_ascii {digits : Bytes} (h : Digits digits) :
    ∃ cs, digits = Bytes.ascii cs ∧ (∀ c ∈ cs, c.isDigit = true) ∧
      unsigned? cs = some (spelled 0 digits) := by
  obtain ⟨hne, hall⟩ := h
  rw [List.all_eq_true] at hall
  have hbyte : ∀ byte : UInt8, isDigit byte = true →
      (Char.ofNat byte.toNat).isDigit = true ∧ (Char.ofNat byte.toNat).toUInt8 = byte := by
    decide +kernel
  have hcs : ∀ c ∈ digits.map fun byte => Char.ofNat byte.toNat, c.isDigit = true := by
    rw [List.forall_mem_map]
    exact fun byte hmem => (hbyte byte (hall byte hmem)).1
  have hascii : digits = Bytes.ascii (digits.map fun byte => Char.ofNat byte.toNat) := by
    rw [Bytes.ascii, List.map_map]
    exact (List.map_id digits).symm.trans
      (List.map_congr_left fun byte hmem => (hbyte byte (hall byte hmem)).2.symm)
  refine ⟨_, hascii, hcs, unsigned?_eq_some_iff.mpr ⟨mt List.map_eq_nil_iff.mp hne, hcs, ?_⟩⟩
  conv_rhs => rw [hascii, spelled_ascii hcs]
  rfl

/-- Digits without a sign are read as they are. -/
theorem integer?_of_forall_isDigit (isSigned : Bool) {cs : List Char}
    (h : ∀ c ∈ cs, c.isDigit = true) : integer? isSigned cs = (unsigned? cs).map Int.ofNat := by
  rw [integer?]
  · rintro digits rfl
    exact absurd (h '+' List.mem_cons_self) (by decide)
  · rintro digits rfl
    exact absurd (h '-' List.mem_cons_self) (by decide)

/-- What is read on characters is spelled by their bytes. -/
theorem spells_of_integer? {isSigned : Bool} {cs : List Char} {n : Int}
    (h : integer? isSigned cs = some n) :
    (∀ c ∈ cs, c.toNat < 0x80) ∧ Spells (Bytes.ascii cs) n ∧
      (isSigned = true ∨ (Bytes.ascii cs).head? ≠ some 0x2D) := by
  revert h
  fun_cases integer? isSigned cs
  case case1 digits =>
    intro h
    obtain ⟨k, hk, rfl⟩ := Option.map_eq_some_iff.mp h
    obtain ⟨hne, hall, rfl⟩ := unsigned?_eq_some_iff.mp hk
    refine ⟨List.forall_mem_cons.mpr ⟨by decide, fun c hc => toNat_lt_of_isDigit (hall c hc)⟩,
      ?_, .inr fun hhead => absurd (Option.some.inj hhead) (by decide)⟩
    have hspells := Spells.plus (digits_ascii hne hall)
    rwa [spelled_ascii hall] at hspells
  case case2 digits hsigned =>
    intro h
    rcases hk : unsigned? digits with _ | k
    · rw [hk] at h
      cases h
    · rw [hk] at h
      cases h
      obtain ⟨hne, hall, rfl⟩ := unsigned?_eq_some_iff.mp hk
      refine ⟨List.forall_mem_cons.mpr ⟨by decide, fun c hc => toNat_lt_of_isDigit (hall c hc)⟩,
        ?_, .inl hsigned⟩
      have hspells := Spells.minus (digits_ascii hne hall)
      rwa [spelled_ascii hall] at hspells
  case case3 =>
    intro h
    cases h
  case case4 =>
    intro h
    obtain ⟨k, hk, rfl⟩ := Option.map_eq_some_iff.mp h
    obtain ⟨hne, hall, rfl⟩ := unsigned?_eq_some_iff.mp hk
    have hdigits := digits_ascii hne hall
    refine ⟨fun c hc => toNat_lt_of_isDigit (hall c hc), ?_, .inr ?_⟩
    · have hspells := Spells.plain hdigits
      rwa [spelled_ascii hall] at hspells
    · obtain ⟨byte, rest, hbyte, hdigit⟩ := hdigits.exists_eq_cons
      rw [hbyte, List.head?_cons, Ne, Option.some.injEq]
      exact (ne_sign_of_isDigit hdigit).1

/-- What is spelled is read on characters. -/
theorem exists_integer?_of_spells {isSigned : Bool} {data : Bytes} {n : Int} (h : Spells data n)
    (hsign : isSigned = true ∨ data.head? ≠ some 0x2D) :
    ∃ cs, data = Bytes.ascii cs ∧ (∀ c ∈ cs, c.toNat < 0x80) ∧ integer? isSigned cs = some n := by
  rcases h with hdigits | hdigits | hdigits
  · obtain ⟨cs, hcs, hall, hunsigned⟩ := hdigits.exists_eq_ascii
    refine ⟨cs, hcs, fun c hc => toNat_lt_of_isDigit (hall c hc), ?_⟩
    rw [integer?_of_forall_isDigit isSigned hall, hunsigned]
    rfl
  · obtain ⟨cs, hcs, hall, hunsigned⟩ := hdigits.exists_eq_ascii
    refine ⟨'+' :: cs, congrArg (0x2B :: ·) hcs,
      List.forall_mem_cons.mpr ⟨by decide, fun c hc => toNat_lt_of_isDigit (hall c hc)⟩, ?_⟩
    rw [integer?, hunsigned]
    rfl
  · obtain ⟨cs, hcs, hall, hunsigned⟩ := hdigits.exists_eq_ascii
    have hsigned : isSigned = true := hsign.resolve_right fun hhead => hhead rfl
    refine ⟨'-' :: cs, congrArg (0x2D :: ·) hcs,
      List.forall_mem_cons.mpr ⟨by decide, fun c hc => toNat_lt_of_isDigit (hall c hc)⟩, ?_⟩
    rw [integer?, if_pos hsigned, hunsigned]
    rfl

/-- **The reader that works on characters** takes what spells a number of the type, but no minus
sign for a type without negative numbers. -/
theorem read?_eq_some_iff {t : IntType} {data : Bytes} {word : t.Word} :
    read? t data = some word ↔
      ∃ n, Spells data n ∧ (t.isSigned = true ∨ data.head? ≠ some 0x2D) ∧
        t.ofInt? n = some word := by
  rw [read?, Option.bind_eq_bind, Option.bind_eq_some_iff]
  constructor
  · rintro ⟨text, htext, h⟩
    rw [Option.bind_eq_bind, Option.bind_eq_some_iff] at h
    obtain ⟨n, hn, hword⟩ := h
    obtain ⟨hascii, hspells, hsign⟩ := spells_of_integer? hn
    have hdata : data = Bytes.ascii text.toList := by
      rw [Bytes.ascii_eq_encode hascii, String.ofList_toList]
      exact Utf8.decode?_eq_some_iff.mp htext
    rw [hdata]
    exact ⟨n, hspells, hsign, hword⟩
  · rintro ⟨n, hspells, hsign, hword⟩
    obtain ⟨cs, rfl, hascii, hn⟩ := exists_integer?_of_spells hspells hsign
    refine ⟨String.ofList cs, Utf8.decode?_ascii hascii, ?_⟩
    rw [String.toList_ofList, hn]
    exact hword

end Decimal

/-! ## Where the readers of whole numbers agree

The catalogues read whole numbers in different ways, and what they take differs in one place only.
For a type without negative numbers a minus sign in front of nothing but zeros is refused by the
reader that works on characters, since it takes no minus sign at all, and taken by the one that
works on bytes, since the number is zero and zero fits: `PgAdapt.IntType.textLoader_load_agree`.
-/

namespace Decimal

variable {t : IntType} {data : Bytes}

/-! ### Zero with a minus sign -/

/-- A minus sign in front of zeros, at least one of them. -/
def MinusZero (data : Bytes) : Prop := ∃ k, data = 0x2D :: List.replicate (k + 1) 0x30

/-- Digits spell zero only if they are all zero. -/
theorem eq_replicate_of_spelled_eq_zero {digits : Bytes} (hall : digits.all isDigit = true)
    (h : spelled 0 digits = 0) : digits = List.replicate digits.length 0x30 := by
  induction digits with
  | nil => rfl
  | cons byte rest ih =>
    rw [List.all_cons, Bool.and_eq_true] at hall
    have hfirst : 0 + (byte.toNat - 0x30) = 0 := by
      have hle := le_spelled (10 * 0 + (byte.toNat - 0x30)) rest
      rw [show spelled (10 * 0 + (byte.toNat - 0x30)) rest = 0 from h] at hle
      omega
    obtain rfl : byte = 0x30 := by
      have hdigit := hall.1
      simp only [isDigit, Bool.and_eq_true, decide_eq_true_eq, UInt8.le_iff_toNat_le] at hdigit
      rw [← UInt8.toNat_inj]
      have hleast : (0x30 : UInt8).toNat = 0x30 := rfl
      omega
    rw [List.length_cons, List.replicate_succ, ← ih hall.2 h]

theorem spelled_replicate_zero (k : Nat) : spelled 0 (List.replicate k 0x30) = 0 := by
  induction k with
  | zero => rfl
  | succ k ih => exact ih

theorem all_isDigit_replicate_zero (k : Nat) :
    (List.replicate k (0x30 : UInt8)).all isDigit = true := by
  rw [List.all_eq_true]
  intro byte hbyte
  rw [List.eq_of_mem_replicate hbyte]
  rfl

theorem ofInt?_zero (t : IntType) : t.ofInt? 0 = some 0 := by cases t <;> rfl

/-- A type without negative numbers has no number below zero. -/
theorem nonneg_of_ofInt?_eq_some (ht : t.isSigned = false) {n : Int} {word : t.Word}
    (h : t.ofInt? n = some word) : 0 ≤ n := by
  have hleast : t.least = 0 := by rw [IntType.least, ht]; rfl
  rw [IntType.ofInt?, hleast] at h
  split_ifs at h with hrange
  exact hrange.1

/-- What starts with a minus sign and spells a number of a type without negative numbers. -/
theorem minusZero_of_spells (ht : t.isSigned = false) {n : Int} {word : t.Word}
    (hspells : Spells data n) (hword : t.ofInt? n = some word) (hhead : data.head? = some 0x2D) :
    MinusZero data := by
  have hn := nonneg_of_ofInt?_eq_some ht hword
  rcases hspells with hdigits | hdigits | @⟨digits, hdigits⟩
  · obtain ⟨byte, rest, rfl, hbyte⟩ := hdigits.exists_eq_cons
    exact absurd (Option.some.inj hhead) (ne_sign_of_isDigit hbyte).1
  · exact absurd (Option.some.inj hhead) (by decide)
  · have hzero : spelled 0 digits = 0 := by omega
    obtain ⟨k, hk⟩ := Nat.exists_eq_succ_of_ne_zero (mt List.length_eq_zero_iff.mp hdigits.1)
    refine ⟨k, ?_⟩
    rw [eq_replicate_of_spelled_eq_zero hdigits.2 hzero, hk]

theorem MinusZero.spells (h : MinusZero data) : Spells data 0 := by
  obtain ⟨k, rfl⟩ := h
  have hdigits : Digits (List.replicate (k + 1) 0x30) :=
    ⟨List.cons_ne_nil _ _, all_isDigit_replicate_zero (k + 1)⟩
  have hspells := Spells.minus hdigits
  rwa [spelled_replicate_zero, Int.natCast_zero, Int.neg_zero] at hspells

/-! ### Both readers -/

/-- **The readers agree** except on zero with a minus sign, where there are no negative numbers. -/
theorem accumulate?_eq_read? (h : t.isSigned = true ∨ ¬MinusZero data) :
    accumulate? t data = read? t data := by
  refine Option.ext fun word => ?_
  rw [accumulate?_eq_some_iff, read?_eq_some_iff]
  constructor
  · rintro ⟨n, hspells, hword⟩
    refine ⟨n, hspells, ?_, hword⟩
    rcases ht : t.isSigned with _ | _
    · rw [ht] at h
      refine .inr fun hhead => ?_
      exact h.resolve_left Bool.false_ne_true (minusZero_of_spells ht hspells hword hhead)
    · exact .inl rfl
  · rintro ⟨n, hspells, -, hword⟩
    exact ⟨n, hspells, hword⟩

theorem accumulate?_of_minusZero (t : IntType) (h : MinusZero data) :
    accumulate? t data = some 0 :=
  accumulate?_eq_some_iff.mpr ⟨0, h.spells, ofInt?_zero t⟩

theorem read?_of_minusZero (ht : t.isSigned = false) (h : MinusZero data) :
    read? t data = none := by
  rw [Option.eq_none_iff_forall_ne_some]
  intro word hword
  obtain ⟨n, -, hsign, -⟩ := read?_eq_some_iff.mp hword
  obtain ⟨k, rfl⟩ := h
  rw [ht] at hsign
  rcases hsign with hsign | hhead
  · cases hsign
  · exact hhead rfl

end Decimal

namespace IntType

open Decimal

/-! ### Both loaders -/

/-- **The loaders of whole numbers agree** between the catalogues, in what they load and in their
error, on all strings of bytes but one kind: a minus sign in front of zeros, for a type without
negative numbers. That is refused as not valid by the reference catalogue, and loaded as zero by
the optimized one. -/
theorem textLoader_load_agree (t : IntType) (data : Bytes) :
    ((t.textLoader .optimized).load data = (t.textLoader .reference).load data ↔
      t.isSigned = true ∨ ¬MinusZero data) ∧
    (t.isSigned = false → MinusZero data →
      (t.textLoader .optimized).load data = .ok (.int t 0) ∧
        (t.textLoader .reference).load data = .error (invalidText t.oid data)) := by
  have hzero (ht : t.isSigned = false) (h : MinusZero data) :
      (t.textLoader .optimized).load data = .ok (.int t 0) ∧
        (t.textLoader .reference).load data = .error (invalidText t.oid data) := by
    constructor
    · simp only [textLoader, textReader, accumulate?_of_minusZero t h]
    · simp only [textLoader, textReader, read?_of_minusZero ht h]
  refine ⟨⟨fun hagree => ?_, fun h => ?_⟩, hzero⟩
  · by_contra hdiffer
    obtain ⟨ht, h⟩ := not_or.mp hdiffer
    obtain ⟨hloaded, hrefused⟩ := hzero (Bool.eq_false_iff.mpr ht) (not_not.mp h)
    rw [hloaded, hrefused] at hagree
    cases hagree
  · simp only [textLoader, textReader, accumulate?_eq_read? h]

/-- The least number of four bytes is loaded alike, and a type identifier of zeros with a minus sign
is not. -/
theorem textLoader_load_agree_leading_zeros :
    (textLoader .int32 .optimized).load (Bytes.ascii "-02147483648".toList) =
        (textLoader .int32 .reference).load (Bytes.ascii "-02147483648".toList) ∧
      (textLoader .uint32 .optimized).load (Bytes.ascii "-00".toList) = .ok (.int .uint32 0) ∧
      (textLoader .uint32 .reference).load (Bytes.ascii "-00".toList) =
        .error (invalidText .oid (Bytes.ascii "-00".toList)) := by
  refine ⟨(textLoader_load_agree .int32 _).1.mpr (.inl rfl), ?_⟩
  exact (textLoader_load_agree .uint32 _).2 rfl ⟨1, rfl⟩

/-- The loaders do not agree on zero with a minus sign, read as a type identifier. -/
theorem textLoader_load_ne_of_minus_zero :
    (textLoader .uint32 .optimized).load (Bytes.ascii "-0".toList) ≠
      (textLoader .uint32 .reference).load (Bytes.ascii "-0".toList) := by
  have hzero : MinusZero (Bytes.ascii "-0".toList) := ⟨0, rfl⟩
  simp only [textLoader, textReader, accumulate?_of_minusZero .uint32 hzero,
    read?_of_minusZero (t := .uint32) rfl hzero]
  intro h
  cases h

end IntType

end PgAdapt
