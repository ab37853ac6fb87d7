import Mathlib.Data.List.Basic
import Mathlib.Data.List.Induction
import PgAdapt.Proofs.ArrayBinary.Box

/-!
# The parts of a binary array

A binary array is made of words, of dimensions and of elements behind their lengths. Each reader of
such a part takes back what has been written, and takes nothing else.
-/

namespace PgAdapt

/-! ## Words in network order, read and written

A string of bytes is determined by its length and the number that it spells:
`PgAdapt.Bytes.ofNat_toNat`. Together with `PgAdapt.Bytes.toNat_ofNat` this says that writing a
number of a given width and reading it are inverse to each other.
-/

namespace Bytes

/-- The number that a string of bytes spells fits into its width. -/
theorem toNat_lt (bytes : Bytes) : toNat bytes < Nat.pow 256 bytes.length := by
  rw [Nat.pow_eq]
  induction bytes using List.reverseRecOn with
  | nil => exact Nat.one_pos
  | append_singleton bytes byte ih =>
    have hbyte : byte.toNat < 256 := byte.toNat_lt
    rw [toNat_append_singleton, List.length_append, List.length_singleton, Nat.pow_succ]
    omega

/-- **A string of bytes is written again** from the number that it spells. -/
theorem ofNat_toNat (bytes : Bytes) : ofNat bytes.length (toNat bytes) = bytes := by
  induction bytes using List.reverseRecOn with
  | nil => rfl
  | append_singleton bytes byte ih =>
    have hbyte : byte.toNat < 256 := byte.toNat_lt
    have hfront : (256 * toNat bytes + byte.toNat) / 256 = toNat bytes := by omega
    have hlast : UInt8.ofNat (256 * toNat bytes + byte.toNat) = byte := by
      rw [← UInt8.toNat_inj, UInt8.toNat_ofNat']
      omega
    rw [toNat_append_singleton, List.length_append, List.length_singleton, ofNat, hfront, hlast, ih]

end Bytes

/-! ## Reading a binary array that has been written

`PgAdapt.ArrayBinary.write` puts words and elements one behind the other, and each of the readers
takes one of them off the front again and leaves what is behind it:
`PgAdapt.ArrayBinary.readWord_word` up to `PgAdapt.ArrayBinary.readItems_flatMap`. So a message is
taken apart into what it was made of, `PgAdapt.ArrayBinary.readHeader_write`, if its lengths fit
into the words for them (`PgAdapt.ArrayBinary.Fits`).
-/

namespace ArrayBinary

/-! ### Words -/

theorem length_word (n : Nat) : (word n).length = 4 := Bytes.length_ofNat 4 n

/-- A word is read as the number in it, up to a multiple of its range. -/
theorem readWord_word (n : Nat) (rest : Bytes) :
    readWord (word n ++ rest) = .ok (n % 0x100000000, rest) := by
  obtain ⟨a, b, c, d, hword⟩ : ∃ a b c d, word n = [a, b, c, d] :=
    List.length_eq_four.mp (length_word n)
  have htoNat : Bytes.toNat [a, b, c, d] = n % 0x100000000 := by
    rw [← hword]
    exact Bytes.toNat_ofNat 4 n
  rw [hword]
  exact congrArg (fun m => Except.ok (m, rest)) htoNat

/-- A length that fits is read as it was written. -/
theorem readSigned_word {n : Nat} (h : n < lengthLimit) (rest : Bytes) :
    readSigned (word n ++ rest) = .ok ((n : Int), rest) := by
  have hmod : n % 0x100000000 = n := Nat.mod_eq_of_lt (by rw [lengthLimit] at h; omega)
  rw [readSigned, readWord_word, hmod]
  exact congrArg (fun m => Except.ok (m, rest)) (if_pos h)

theorem natural_natCast (fault : Int → Fault) (n : Nat) : natural fault (n : Int) = .ok n := by
  rw [natural, if_pos (Int.natCast_nonneg n), Int.toNat_natCast]

/-! ### The header -/

/-- The dimensions **fit** into the words for them. -/
def Fits (dims : List Nat) : Prop :=
  dims.length < lengthLimit ∧ ∀ dim ∈ dims, dim < lengthLimit

/-- A dimension with its lower bound. -/
def dimensionWords (dim : Nat) : Bytes := word dim ++ word 1

/-- The dimensions are read as they were written. -/
theorem readDimensions_flatMap {dims : List Nat} (h : ∀ dim ∈ dims, dim < lengthLimit)
    (rest : Bytes) :
    readDimensions dims.length (dims.flatMap dimensionWords ++ rest) = .ok (dims, rest) := by
  induction dims with
  | nil => rfl
  | cons dim dims ih =>
    rw [List.forall_mem_cons] at h
    have hone : 1 < lengthLimit := by decide
    rw [List.length_cons, readDimensions, List.flatMap_cons, dimensionWords, List.append_assoc,
      List.append_assoc, readSigned_word h.1]
    simp only [bind, Except.bind, readSigned_word hone, natural_natCast, ih h.2, pure, Except.pure]

/-- Every element takes up at least four bytes. -/
theorem length_le_length_flatMap_writeItem (leaves : List (Option Bytes)) :
    4 * leaves.length ≤ (leaves.flatMap writeItem).length := by
  induction leaves with
  | nil => rfl
  | cons leaf leaves ih =>
    have hleaf : 4 ≤ (writeItem leaf).length := by
      rcases leaf with _ | bytes
      · exact Nat.le_refl 4
      · rw [writeItem, List.length_append, length_word]
        exact Nat.le_add_right 4 _
    rw [List.flatMap_cons, List.length_append, List.length_cons]
    omega

theorem write_eq (element : Oid) (dims : List Nat) (leaves : List (Option Bytes)) :
    write element dims leaves =
      word dims.length ++ (word (if none ∈ leaves then 1 else 0) ++
        (word element.number.toNat ++
          (dims.flatMap dimensionWords ++ leaves.flatMap writeItem))) := by
  simp only [write, List.append_assoc]
  rfl

/-- The bytes of an element are shorter than the message. -/
theorem length_lt_length_write (element : Oid) (dims : List Nat) {leaves : List (Option Bytes)}
    {bytes : Bytes} (h : some bytes ∈ leaves) :
    bytes.length < (write element dims leaves).length := by
  obtain ⟨before, after, rfl⟩ := List.append_of_mem h
  simp only [write_eq, writeItem, List.length_append, length_word, List.flatMap_append,
    List.flatMap_cons]
  omega

/-- **The header is read as it was written**, if the dimensions fit, none of them is zero, and
there are as many elements as they announce. -/
theorem readHeader_write (element : Oid) {dims : List Nat} {leaves : List (Option Bytes)}
    (hfits : Fits dims) (hzero : 0 ∉ dims)
    (hcount : dims ≠ [] → dims.foldl (· * ·) 1 = leaves.length) :
    readHeader (write element dims leaves) =
      .ok ⟨element, dims, leaves.flatMap writeItem⟩ := by
  have hnull : (if none ∈ leaves then 1 else 0) < lengthLimit := by
    split_ifs <;> decide
  have hnumber : UInt32.ofNat (element.number.toNat % 0x100000000) = element.number := by
    rw [Nat.mod_eq_of_lt element.number.toNat_lt, UInt32.ofNat_toNat]
  -- The reader refuses dimensions that announce more elements than the bytes can hold.
  have henough : ¬(leaves.flatMap writeItem).length / 4 < leaves.length := by
    have := length_le_length_flatMap_writeItem leaves
    omega
  rw [write_eq, readHeader, readSigned_word hfits.1]
  simp only [bind, Except.bind, readSigned_word hnull, readWord_word, natural_natCast, hnumber]
  by_cases hdims : dims = []
  · subst hdims
    rfl
  · have hlength : dims.length ≠ 0 := by rwa [Ne, List.length_eq_zero_iff]
    simp only [if_neg hlength, readDimensions_flatMap hfits.2, if_neg hzero, hcount hdims,
      if_neg henough]
    rfl

/-! ### The elements -/

/-- An element is read as it was written. -/
theorem readItem_writeItem {leaf : Option Bytes}
    (h : ∀ bytes, leaf = some bytes → bytes.length < lengthLimit) (rest : Bytes) :
    readItem (writeItem leaf ++ rest) = .ok (leaf, rest) := by
  rcases leaf with _ | bytes
  · rfl
  · have hne : (bytes.length : Int) ≠ -1 := by omega
    rw [writeItem, List.append_assoc, readItem, readSigned_word (h bytes rfl)]
    simp only [bind, Except.bind, if_neg hne, natural_natCast]
    rw [if_neg (by rw [List.length_append]; omega), List.take_left', List.drop_left']
    · rfl
    · rfl
    · rfl

/-- **The elements are read as they were written**, if their lengths fit. -/
theorem readItems_flatMap {leaves : List (Option Bytes)}
    (h : ∀ bytes, some bytes ∈ leaves → bytes.length < lengthLimit) :
    readItems leaves.length (leaves.flatMap writeItem) = (leaves, none) := by
  induction leaves with
  | nil => rfl
  | cons leaf leaves ih =>
    have hleaf : ∀ bytes, leaf = some bytes → bytes.length < lengthLimit :=
      fun bytes he => h bytes (he ▸ List.mem_cons_self)
    have hrest := ih fun bytes hmem => h bytes (List.mem_cons_of_mem _ hmem)
    rw [List.length_cons, readItems, List.flatMap_cons, readItem_writeItem hleaf]
    simp only [hrest]

end ArrayBinary

/-! ## What the readers of a binary array take

Each reader takes back what was written. Here is the converse: whatever a reader takes off the front
of a message has been written there, and the reader leaves exactly the bytes behind it. So for each
reader there is one equivalence, from `PgAdapt.ArrayBinary.readWord_eq_ok_iff` to
`PgAdapt.ArrayBinary.readItems_eq_iff`. The words that the readers skip, the one about `NULL`s and
the lower bounds, may be any.
-/

namespace ArrayBinary

/-! ### Words -/

/-- The first word of a message is read. -/
theorem readWord_eq_ok_iff {data rest : Bytes} {n : Nat} :
    readWord data = .ok (n, rest) ↔ n < 0x100000000 ∧ data = word n ++ rest := by
  constructor
  · intro h
    rcases data with _ | ⟨a, _ | ⟨b, _ | ⟨c, _ | ⟨d, data⟩⟩⟩⟩
    · cases h
    · cases h
    · cases h
    · cases h
    · obtain ⟨rfl, rfl⟩ : Bytes.toNat [a, b, c, d] = n ∧ data = rest :=
        Prod.ext_iff.mp (Except.ok.inj h)
      have hlt : Bytes.toNat [a, b, c, d] < 256 ^ 4 := Bytes.toNat_lt [a, b, c, d]
      have heq : word (Bytes.toNat [a, b, c, d]) = [a, b, c, d] := Bytes.ofNat_toNat [a, b, c, d]
      exact ⟨by simpa only [Nat.reducePow] using hlt, by rw [heq]; rfl⟩
  · rintro ⟨hn, rfl⟩
    rw [readWord_word, Nat.mod_eq_of_lt hn]

/-- The first word of a message is read as a number with a sign. -/
theorem readSigned_eq_ok_iff {data rest : Bytes} {k : Int} :
    readSigned data = .ok (k, rest) ↔
      ∃ n < 0x100000000, signed n = k ∧ data = word n ++ rest := by
  rw [readSigned, map_eq_ok_iff]
  constructor
  · rintro ⟨⟨n, rest⟩, hread, h⟩
    cases h
    obtain ⟨hn, rfl⟩ := readWord_eq_ok_iff.mp hread
    exact ⟨n, hn, rfl, rfl⟩
  · rintro ⟨n, hn, rfl, rfl⟩
    exact ⟨(n, rest), readWord_eq_ok_iff.mpr ⟨hn, rfl⟩, rfl⟩

/-- A number with a sign is not negative exactly if it is below the limit, and then the sign has
changed nothing. -/
theorem natural_signed_eq_ok_iff {fault : Int → Fault} {n m : Nat} (h : n < 0x100000000) :
    natural fault (signed n) = .ok m ↔ n < lengthLimit ∧ n = m := by
  by_cases hn : n < lengthLimit
  · rw [signed, if_pos hn, natural_natCast]
    exact ⟨fun h => ⟨hn, Except.ok.inj h⟩, fun h => congrArg Except.ok h.2⟩
  · have hneg : ¬0 ≤ (n : Int) - 0x100000000 := by omega
    rw [signed, if_neg hn, natural, if_neg hneg]
    constructor
    · intro h
      cases h
    · rintro ⟨h, -⟩
      exact absurd h hn

/-- The word that stands for a `NULL`. -/
theorem signed_eq_neg_one_iff {n : Nat} (h : n < 0x100000000) :
    signed n = -1 ↔ word n = nullLength := by
  have hnull : nullLength = word 0xFFFFFFFF := rfl
  constructor
  · intro hn
    have : n = 0xFFFFFFFF := by
      rw [signed] at hn
      split_ifs at hn
      all_goals omega
    rw [this, hnull]
  · intro hn
    have hmod : n % 0x100000000 = 0xFFFFFFFF % 0x100000000 := by
      have hread := readWord_word n []
      rw [hn, hnull, readWord_word] at hread
      exact (Prod.ext_iff.mp (Except.ok.inj hread)).1.symm
    obtain rfl : n = 0xFFFFFFFF := by omega
    rfl

/-! ### The header -/

/-- A **dimension** as it stands in a header. -/
structure Dimension where
  /-- The number of elements along the dimension. -/
  length : Nat
  /-- The index of the first of them, which the readers skip. -/
  lower : UInt32
  deriving DecidableEq, Repr

/-- The words of a dimension. -/
def Dimension.bytes (d : Dimension) : Bytes := word d.length ++ word d.lower.toNat

theorem readDimensions_eq_ok_iff {count : Nat} {data rest : Bytes} {dims : List Nat} :
    readDimensions count data = .ok (dims, rest) ↔
      ∃ ds : List Dimension, ds.length = count ∧ ds.map Dimension.length = dims ∧
        (∀ dim ∈ dims, dim < lengthLimit) ∧ data = ds.flatMap Dimension.bytes ++ rest := by
  induction count generalizing data dims with
  | zero =>
    constructor
    · intro h
      obtain ⟨rfl, rfl⟩ : [] = dims ∧ data = rest := Prod.ext_iff.mp (Except.ok.inj h)
      exact ⟨[], rfl, rfl, by simp, rfl⟩
    · rintro ⟨ds, hlength, rfl, -, rfl⟩
      obtain rfl := List.length_eq_zero_iff.mp hlength
      rfl
  | succ count ih =>
    rw [readDimensions]
    constructor
    · intro h
      rw [bind_eq_ok_iff] at h
      obtain ⟨⟨k, data₁⟩, hk, h⟩ := h
      rw [bind_eq_ok_iff] at h
      obtain ⟨⟨b, data₂⟩, hb, h⟩ := h
      rw [bind_eq_ok_iff] at h
      obtain ⟨length, hlength, h⟩ := h
      rw [bind_eq_ok_iff] at h
      obtain ⟨⟨dims, data₃⟩, hdims, h⟩ := h
      cases h
      obtain ⟨n, hn, rfl, rfl⟩ := readSigned_eq_ok_iff.mp hk
      obtain ⟨lower, hlower, rfl, rfl⟩ := readSigned_eq_ok_iff.mp hb
      obtain ⟨hfits, rfl⟩ := (natural_signed_eq_ok_iff hn).mp hlength
      obtain ⟨ds, hcount, rfl, hall, rfl⟩ := ih.mp hdims
      refine ⟨⟨n, .ofNat lower⟩ :: ds, congrArg Nat.succ hcount, rfl,
        List.forall_mem_cons.mpr ⟨hfits, hall⟩, ?_⟩
      have htoNat : (UInt32.ofNat lower).toNat = lower := UInt32.toNat_ofNat_of_lt' hlower
      simp only [List.flatMap_cons, Dimension.bytes, htoNat, List.append_assoc]
    · rintro ⟨ds, hcount, rfl, hall, rfl⟩
      rcases ds with _ | ⟨d, ds⟩
      · cases hcount
      · rw [List.map_cons, List.forall_mem_cons] at hall
        have hd : d.length < 0x100000000 := hall.1.trans (by decide)
        rw [List.flatMap_cons, Dimension.bytes, List.append_assoc, List.append_assoc]
        refine bind_eq_ok_iff.mpr
          ⟨_, readSigned_eq_ok_iff.mpr ⟨d.length, hd, rfl, rfl⟩, ?_⟩
        refine bind_eq_ok_iff.mpr
          ⟨_, readSigned_eq_ok_iff.mpr ⟨d.lower.toNat, d.lower.toNat_lt, rfl, rfl⟩, ?_⟩
        refine bind_eq_ok_iff.mpr ⟨_, (natural_signed_eq_ok_iff hd).mpr ⟨hall.1, rfl⟩, ?_⟩
        exact bind_eq_ok_iff.mpr
          ⟨_, ih.mpr ⟨ds, Nat.succ.inj hcount, rfl, hall.2, rfl⟩, rfl⟩

/-- A header: the words that the dimensions follow, and the dimensions. -/
def headerBytes (flags : UInt32) (element : Oid) (ds : List Dimension) : Bytes :=
  word ds.length ++ (word flags.toNat ++ (word element.number.toNat ++
    ds.flatMap Dimension.bytes))

/-- **A header is read** exactly if its words fit, no dimension is empty, and what follows it can
hold as many elements as the dimensions announce. -/
theorem readHeader_eq_ok_iff {data body : Bytes} {element : Oid} {dims : List Nat} :
    readHeader data = .ok ⟨element, dims, body⟩ ↔
      ∃ (flags : UInt32) (ds : List Dimension),
        ds.map Dimension.length = dims ∧ Fits dims ∧ 0 ∉ dims ∧
        (dims ≠ [] → dims.foldl (· * ·) 1 ≤ body.length / 4) ∧
        data = headerBytes flags element ds ++ body := by
  constructor
  · intro h
    rw [readHeader, bind_eq_ok_iff] at h
    obtain ⟨⟨k, data₁⟩, hk, h⟩ := h
    rw [bind_eq_ok_iff] at h
    obtain ⟨⟨f, data₂⟩, hf, h⟩ := h
    rw [bind_eq_ok_iff] at h
    obtain ⟨⟨number, data₃⟩, hnumber, h⟩ := h
    rw [bind_eq_ok_iff] at h
    obtain ⟨count, hcount, h⟩ := h
    obtain ⟨n, hn, rfl, rfl⟩ := readSigned_eq_ok_iff.mp hk
    obtain ⟨flags, hflags, rfl, rfl⟩ := readSigned_eq_ok_iff.mp hf
    obtain ⟨hlt, rfl⟩ := readWord_eq_ok_iff.mp hnumber
    obtain ⟨hfits, rfl⟩ := (natural_signed_eq_ok_iff hn).mp hcount
    have hflags' : (UInt32.ofNat flags).toNat = flags := UInt32.toNat_ofNat_of_lt' hflags
    have hnumber' : (UInt32.ofNat number).toNat = number := UInt32.toNat_ofNat_of_lt' hlt
    by_cases hzero : n = 0
    · subst hzero
      cases h
      refine ⟨.ofNat flags, [], rfl, ⟨hfits, by simp⟩, by simp, by simp, ?_⟩
      simp only [headerBytes, hflags', hnumber', List.length_nil, List.flatMap_nil,
        List.append_nil, List.append_assoc]
    · rw [if_neg hzero, bind_eq_ok_iff] at h
      obtain ⟨⟨dims', body'⟩, hdims, h⟩ := h
      obtain ⟨ds, rfl, rfl, hall, rfl⟩ := readDimensions_eq_ok_iff.mp hdims
      dsimp only at h
      by_cases hempty : 0 ∈ ds.map Dimension.length
      · rw [if_pos hempty] at h
        cases h
      by_cases hexcess : body'.length / 4 < (ds.map Dimension.length).foldl (· * ·) 1
      · rw [if_neg hempty, if_pos hexcess] at h
        cases h
      rw [if_neg hempty, if_neg hexcess] at h
      cases h
      refine ⟨.ofNat flags, ds, rfl, ⟨?_, hall⟩, hempty, fun _ => Nat.le_of_not_lt hexcess, ?_⟩
      · rwa [List.length_map]
      · simp only [headerBytes, hflags', hnumber', List.append_assoc]
  · rintro ⟨flags, ds, rfl, hfits, hempty, hcapacity, rfl⟩
    have hlength : ds.length < lengthLimit := List.length_map Dimension.length ▸ hfits.1
    have hn : ds.length < 0x100000000 := hlength.trans (by decide)
    rw [headerBytes, List.append_assoc, List.append_assoc, List.append_assoc]
    refine bind_eq_ok_iff.mpr
      ⟨_, readSigned_eq_ok_iff.mpr ⟨ds.length, hn, rfl, rfl⟩, ?_⟩
    refine bind_eq_ok_iff.mpr
      ⟨_, readSigned_eq_ok_iff.mpr ⟨flags.toNat, flags.toNat_lt, rfl, rfl⟩, ?_⟩
    refine bind_eq_ok_iff.mpr
      ⟨_, readWord_eq_ok_iff.mpr ⟨element.number.toNat_lt, rfl⟩, ?_⟩
    refine bind_eq_ok_iff.mpr
      ⟨ds.length, (natural_signed_eq_ok_iff hn).mpr ⟨hlength, rfl⟩, ?_⟩
    rw [UInt32.ofNat_toNat]
    rcases ds with _ | ⟨d, ds⟩
    · rfl
    · rw [List.length_cons, if_neg (Nat.succ_ne_zero _)]
      refine bind_eq_ok_iff.mpr ⟨_, readDimensions_eq_ok_iff.mpr ⟨_, rfl, rfl, hfits.2, rfl⟩, ?_⟩
      dsimp only
      rw [if_neg hempty, if_neg (Nat.not_lt.mpr (hcapacity (List.cons_ne_nil _ _)))]
      rfl

/-! ### The elements -/

/-- The length of an element **fits** into the word for it. -/
def ItemFits (item : Option Bytes) : Prop := ∀ bytes ∈ item, bytes.length < lengthLimit

/-- The first element of a message is read. -/
theorem readItem_eq_ok_iff {data rest : Bytes} {item : Option Bytes} :
    readItem data = .ok (item, rest) ↔ ItemFits item ∧ data = writeItem item ++ rest := by
  constructor
  · intro h
    rw [readItem] at h
    rw [bind_eq_ok_iff] at h
    obtain ⟨⟨k, body⟩, hk, h⟩ := h
    obtain ⟨n, hn, rfl, rfl⟩ := readSigned_eq_ok_iff.mp hk
    dsimp only at h
    by_cases hnull : signed n = -1
    · rw [if_pos hnull] at h
      cases h
      exact ⟨by simp [ItemFits], by rw [(signed_eq_neg_one_iff hn).mp hnull, writeItem]⟩
    · rw [if_neg hnull] at h
      rw [bind_eq_ok_iff] at h
      obtain ⟨length, hlength, h⟩ := h
      obtain ⟨hfits, rfl⟩ := (natural_signed_eq_ok_iff hn).mp hlength
      by_cases htruncated : body.length < n
      · rw [if_pos htruncated] at h
        cases h
      rw [if_neg htruncated] at h
      cases h
      have htake : (body.take n).length = n := List.length_take_of_le (Nat.le_of_not_lt htruncated)
      refine ⟨?_, ?_⟩
      · rintro bytes ⟨⟩
        rwa [htake]
      · rw [writeItem, htake, List.append_assoc, List.take_append_drop]
  · rintro ⟨hfits, rfl⟩
    exact readItem_writeItem (fun bytes h => hfits bytes h) rest

/-- **The elements are read** exactly if they fit and are all there. -/
theorem readItems_eq_iff {count : Nat} {data : Bytes} {items : List (Option Bytes)} :
    readItems count data = (items, none) ↔
      items.length = count ∧ (∀ item ∈ items, ItemFits item) ∧
        ∃ rest, data = items.flatMap writeItem ++ rest := by
  induction count generalizing data items with
  | zero =>
    constructor
    · intro h
      cases h
      exact ⟨rfl, by simp, data, rfl⟩
    · rintro ⟨hlength, -, -⟩
      rw [List.length_eq_zero_iff.mp hlength, readItems]
  | succ count ih =>
    rw [readItems]
    constructor
    · intro h
      rcases hitem : readItem data with fault | ⟨item, data'⟩
      · rw [hitem] at h
        cases h
      · rw [hitem] at h
        rcases hrest : readItems count data' with ⟨more, fault?⟩
        simp only [hrest, Prod.mk.injEq] at h
        obtain ⟨rfl, rfl⟩ := h
        obtain ⟨hfits, rfl⟩ := readItem_eq_ok_iff.mp hitem
        obtain ⟨hlength, hall, rest, rfl⟩ := ih.mp hrest
        refine ⟨congrArg Nat.succ hlength, List.forall_mem_cons.mpr ⟨hfits, hall⟩, rest, ?_⟩
        rw [List.flatMap_cons, List.append_assoc]
    · rintro ⟨hlength, hall, rest, rfl⟩
      rcases items with _ | ⟨item, items⟩
      · cases hlength
      · rw [List.forall_mem_cons] at hall
        rw [List.flatMap_cons, List.append_assoc,
          readItem_eq_ok_iff.mpr ⟨hall.1, rfl⟩]
        simp only [ih.mpr ⟨Nat.succ.inj hlength, hall.2, rest, rfl⟩]

end ArrayBinary

end PgAdapt
