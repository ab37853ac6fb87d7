import Mathlib.Algebra.Order.Ring.Unbundled.Basic
import Mathlib.Tactic.Ring
import PgAdapt.Proofs.ArrayBinary.Load

/-!
# How many arrays a message can stand for

The loader of binary arrays checks that the elements which the dimensions announce fit into the
message. This bounds the leaves, but not the arrays above them: the arrays in a box are as many as
its leading dimensions announce together (`PgAdapt.ArrayBinary.boxCount`), and a dimension of
one at the end takes up eight bytes and repeats all arrays of the level above it, without asking
for a single element more.

So the arrays are bounded by the length of the message if there are few dimensions, or if only the
first of them is one. In general they grow with the square of the length, and not faster:
`PgAdapt.ArrayBinary.Message.boxCount_le_sq`. The bound cannot be improved, since it is reached by
**thin** messages, `PgAdapt.ArrayBinary.thin`, whose dimensions are one from the second on. All of
this is put together in `PgAdapt.loadWith_arrayBinary_countArrays`.
-/

namespace PgAdapt

namespace ArrayBinary

open Element

/-! ### The arrays in a box -/

/-- The arrays in a box of given dimensions, the box included. -/
def boxCount : List Nat → Nat
  | [] => 0
  | length :: inner => length * boxCount inner + 1

/-- **The arrays in a box** are as many as its dimensions say. -/
theorem countArrays_of_isBox {α : Type} : ∀ {dims : List Nat} {items : List (Element α)},
    IsBox dims items → countArrays items = boxCount dims
  | [length], items, h => by
    obtain ⟨-, hleaf⟩ := h
    rw [countArrays_eq, boxCount, boxCount, Nat.mul_zero, Nat.add_right_cancel_iff,
      List.length_eq_zero_iff]
    induction items with
    | nil => rfl
    | cons item items ih =>
      rw [List.forall_mem_cons] at hleaf
      rw [lengthsAll, ih hleaf.2, List.append_nil]
      rcases eq_null_or_value hleaf.1 with rfl | ⟨a, rfl⟩ <;> rfl
  | length :: next :: inner, items, h => by
    obtain ⟨rfl, hbelow⟩ := h
    rw [countArrays_eq, boxCount, Nat.add_right_cancel_iff]
    induction items with
    | nil => rw [lengthsAll, List.length_nil, List.length_nil, Nat.zero_mul]
    | cons item items ih =>
      rw [List.forall_mem_cons] at hbelow
      obtain ⟨⟨below, rfl, hbox⟩, hrest⟩ := hbelow
      rw [lengthsAll, List.length_append, ih hrest, ← countArrays, countArrays_of_isBox hbox,
        List.length_cons, Nat.succ_mul, Nat.add_comm]

/-! ### Arrays and leaves -/

/-- Dimensions none of which is zero announce something. -/
theorem foldl_mul_pos {dims : List Nat} (h : 0 ∉ dims) : 0 < dims.foldl (· * ·) 1 := by
  induction dims with
  | nil => exact Nat.one_pos
  | cons length inner ih =>
    rw [List.mem_cons, not_or] at h
    rw [foldl_mul_cons]
    exact Nat.mul_pos (Nat.pos_of_ne_zero (Ne.symm h.1)) (ih h.2)

/-- At each level below the first there are at most as many arrays as leaves. -/
theorem boxCount_le {inner : List Nat} : ∀ {length : Nat}, 0 ∉ length :: inner →
    boxCount (length :: inner) ≤ inner.length * (length :: inner).foldl (· * ·) 1 + 1 := by
  induction inner with
  | nil =>
    intro length _
    simp [boxCount]
  | cons next inner ih =>
    intro length h
    rw [List.mem_cons, not_or] at h
    have hinner := ih h.2
    have hpos : 0 < (next :: inner).foldl (· * ·) 1 := foldl_mul_pos h.2
    rw [boxCount, foldl_mul_cons, Nat.add_le_add_iff_right, List.length_cons]
    generalize (next :: inner).foldl (· * ·) 1 = product at *
    calc length * boxCount (next :: inner)
        ≤ length * (inner.length * product + 1) := Nat.mul_le_mul_left _ hinner
      _ ≤ length * (inner.length * product + product) :=
          Nat.mul_le_mul_left _ (Nat.add_le_add_left hpos _)
      _ = (inner.length + 1) * (length * product) := by
          rw [← Nat.succ_mul, Nat.mul_left_comm]

/-- Where each array has two elements at least, there are fewer arrays than leaves. -/
theorem boxCount_lt {dims : List Nat} (h : ∀ length ∈ dims, 2 ≤ length) :
    boxCount dims < dims.foldl (· * ·) 1 := by
  induction dims with
  | nil => exact Nat.one_pos
  | cons length inner ih =>
    rw [List.forall_mem_cons] at h
    rw [boxCount, foldl_mul_cons]
    calc length * boxCount inner + 1
        < length * boxCount inner + length := Nat.add_lt_add_left h.1 _
      _ = length * (boxCount inner + 1) := (Nat.mul_succ _ _).symm
      _ ≤ length * inner.foldl (· * ·) 1 := Nat.mul_le_mul_left _ (ih h.2)

/-- If only the first dimension may be one, there are at most as many arrays as leaves. -/
theorem boxCount_le_of_one_notMem {dims : List Nat} (h : 0 ∉ dims) (hone : 1 ∉ dims.tail) :
    boxCount dims ≤ dims.foldl (· * ·) 1 := by
  rcases dims with _ | ⟨length, inner⟩
  · exact Nat.zero_le _
  rw [List.mem_cons, not_or] at h
  have hinner : ∀ length ∈ inner, 2 ≤ length := by
    intro length hlength
    have hzero : length ≠ 0 := ne_of_mem_of_not_mem hlength h.2
    have hone : length ≠ 1 := ne_of_mem_of_not_mem hlength hone
    omega
  rw [boxCount, foldl_mul_cons]
  calc length * boxCount inner + 1
      ≤ length * boxCount inner + length :=
        Nat.add_le_add_left (Nat.pos_of_ne_zero (Ne.symm h.1)) _
    _ = length * (boxCount inner + 1) := (Nat.mul_succ _ _).symm
    _ ≤ length * inner.foldl (· * ·) 1 := Nat.mul_le_mul_left _ (boxCount_lt hinner)

namespace Message

variable (m : Message) (rest : Bytes)

/-- Dimensions and leaves take up bytes. -/
theorem add_le_length (h : m.dims ≠ []) :
    12 + 8 * m.dims.length + 4 * m.dims.foldl (· * ·) 1 ≤ (m.bytes ++ rest).length := by
  have hitems := length_le_length_flatMap_writeItem m.items
  rw [length_items_of_ne_nil (mt dims_eq_nil_iff.mpr h)] at hitems
  rw [List.length_append, length_bytes]
  omega

/-- **The arrays of a message grow at most with the square of its length.** -/
theorem boxCount_le_sq (h : m.dims ≠ []) :
    128 * (boxCount m.dims - 1) ≤ ((m.bytes ++ rest).length - 20) ^ 2 := by
  have hlength := m.add_le_length rest h
  have hzero : 0 ∉ m.dims := m.zero_notMem
  generalize m.dims = dims at h hlength hzero
  rcases dims with _ | ⟨length, inner⟩
  · exact absurd rfl h
  have hcount := boxCount_le hzero
  rw [List.length_cons] at hlength
  generalize (length :: inner).foldl (· * ·) 1 = product at hcount hlength
  -- The bytes for the dimensions and those for the leaves are traded for each other.
  calc 128 * (boxCount (length :: inner) - 1)
      ≤ 128 * (inner.length * product) := Nat.mul_le_mul_left _ (by omega)
    _ = 4 * (8 * inner.length) * (4 * product) := by ring
    _ ≤ (8 * inner.length + 4 * product) ^ 2 := four_mul_le_sq_add _ _
    _ ≤ ((m.bytes ++ rest).length - 20) ^ 2 := Nat.pow_le_pow_left (by omega) 2

/-- **A message has no more arrays than bytes** if it has few dimensions, or if only its first
dimension may be one. -/
theorem boxCount_le_length (h : m.dims ≠ []) (hdims : m.dims.length ≤ 5 ∨ 1 ∉ m.dims.tail) :
    boxCount m.dims ≤ (m.bytes ++ rest).length := by
  have hlength := m.add_le_length rest h
  have hzero : 0 ∉ m.dims := m.zero_notMem
  rcases hdims with hfew | hone
  · generalize m.dims = dims at h hlength hzero hfew
    rcases dims with _ | ⟨length, inner⟩
    · exact absurd rfl h
    have hcount := boxCount_le hzero
    rw [List.length_cons] at hfew hlength
    generalize (length :: inner).foldl (· * ·) 1 = product at hcount hlength
    have hproduct : inner.length * product ≤ 4 * product :=
      Nat.mul_le_mul_right product (by omega)
    omega
  · have hcount := boxCount_le_of_one_notMem hzero hone
    omega

end Message

/-! ### Thin messages -/

theorem boxCount_replicate_one (count : Nat) : boxCount (List.replicate count 1) = count := by
  induction count with
  | zero => rfl
  | succ count ih => rw [List.replicate_succ, boxCount, ih, Nat.one_mul]

theorem foldl_mul_replicate_one (count : Nat) :
    (List.replicate count 1).foldl (· * ·) 1 = 1 := by
  induction count with
  | zero => rfl
  | succ count ih => rw [List.replicate_succ, foldl_mul_cons, ih]

/-- The dimensions of a **thin** message: one for each two of its `NULL`s, all but the first of
them one. -/
def thinDimensions (count : Nat) : List Dimension :=
  ⟨2 * count, 1⟩ :: List.replicate count ⟨1, 1⟩

theorem map_length_thinDimensions (count : Nat) :
    (thinDimensions count).map Dimension.length = 2 * count :: List.replicate count 1 := by
  rw [thinDimensions, List.map_cons, List.map_replicate]

theorem foldl_mul_thinDimensions (count : Nat) :
    ((thinDimensions count).map Dimension.length).foldl (· * ·) 1 = 2 * count := by
  rw [map_length_thinDimensions, foldl_mul_cons, foldl_mul_replicate_one, Nat.mul_one]

/-- A thin message. -/
def thin (element : Oid) {count : Nat} (hpos : 0 < count) (hfits : 2 * count < lengthLimit) :
    Message where
  flags := 1
  element := element
  dimensions := thinDimensions count
  items := List.replicate (2 * count) none
  fits := by
    rw [map_length_thinDimensions, Fits, List.length_cons, List.length_replicate,
      List.forall_mem_cons]
    refine ⟨by omega, hfits, fun length hlength => ?_⟩
    rw [List.eq_of_mem_replicate hlength]
    decide
  zero_notMem := by
    rw [map_length_thinDimensions, List.mem_cons, List.mem_replicate]
    omega
  length_items := by
    rw [List.length_replicate, foldl_mul_thinDimensions]
    rfl
  itemFits := by
    intro item hitem
    rw [List.eq_of_mem_replicate hitem]
    exact fun bytes hbytes => by cases hbytes

/-- The array of a thin message. -/
def thinArray (α : Type) (count : Nat) : List (Element α) :=
  arrange (2 * count :: List.replicate count 1) (List.replicate (2 * count) none)

section Thin

variable {α : Type} {count : Nat}

theorem length_replicate_none : (List.replicate (2 * count) (none : Option α)).length =
    (2 * count :: List.replicate count 1).foldl (· * ·) 1 := by
  rw [List.length_replicate, foldl_mul_cons, foldl_mul_replicate_one, Nat.mul_one]

theorem isBox_thinArray : IsBox (2 * count :: List.replicate count 1) (thinArray α count) :=
  isBox_arrange (List.cons_ne_nil _ _) length_replicate_none

/-- **The arrays of a thin message** are as many as the square of its dimensions, twice. -/
theorem countArrays_thinArray : countArrays (thinArray α count) = 2 * count ^ 2 + 1 := by
  rw [countArrays_of_isBox isBox_thinArray, boxCount, boxCount_replicate_one, Nat.mul_assoc,
    Nat.pow_two]

variable (element : Oid) (hpos : 0 < count) (hfits : 2 * count < lengthLimit)

theorem dims_thin : (thin element hpos hfits).dims = 2 * count :: List.replicate count 1 :=
  map_length_thinDimensions count

/-- A thin message has eight bytes for each dimension and four for each `NULL`. -/
theorem length_bytes_thin : (thin element hpos hfits).bytes.length = 20 + 16 * count := by
  have hitems : ((List.replicate (2 * count) none).flatMap writeItem).length = 2 * count * 4 := by
    rw [List.length_flatMap, List.map_replicate, List.sum_replicate_nat]
    rfl
  rw [Message.length_bytes, dims_thin, List.length_cons, List.length_replicate]
  show _ + ((List.replicate (2 * count) none).flatMap writeItem).length = _
  rw [hitems]
  omega

/-- **A thin message is taken** wherever a loader is found for the type of its elements. -/
theorem denotes_thin {loaderFor : Oid → Except AdaptError (Bytes → Except AdaptError α)}
    {load : Bytes → Except AdaptError α} (h : loaderFor element = .ok load) :
    (thin element hpos hfits).Denotes loaderFor (thinArray α count) := by
  have hnone (n : Nat) : List.Forall₂ (Option.Rel fun part b => load part = .ok b)
      (List.replicate n none) (List.replicate n none) := by
    induction n with
    | zero => exact .nil
    | succ n ih => exact .cons .none ih
  refine .box (List.cons_ne_nil _ _) h ?_ ?_
  · rw [dims_thin]
    exact isBox_thinArray
  · rw [thinArray, leavesAll_arrange (List.cons_ne_nil _ _) length_replicate_none]
    exact hnone (2 * count)

end Thin

end ArrayBinary

open ArrayBinary

/-- **How many arrays the loader of binary arrays builds.** The data that it takes, in any session
and with any registry, starts with a message, and the arrays in the result, the outermost one
included, are bounded by the square of the length of the data. They are no more than its bytes if
the message has at most five dimensions, or if none but the first of them is one; but in general
they are more. Wherever there is a loader for a type of elements, there is data that reaches the
bound: it has sixteen bytes for each of its dimensions but the first, twenty bytes besides, and as
many arrays as twice the square of these dimensions, and one. -/
theorem loadWith_arrayBinary_countArrays (s : Session) (ctx : Context) (id : Nat) (name : String)
    (oid : Oid) :
    (∀ {data : Bytes} {v : Value},
      (ctx.loadWith ⟨id, name, .arrayBinary⟩ oid data).result s = .ok v →
        ∃ (m : Message) (rest : Bytes) (array : PgArray), data = m.bytes ++ rest ∧
          v = .array array ∧
          128 * (Element.countArrays array - 1) ≤ (data.length - 20) ^ 2 ∧
          (m.dims.length ≤ 5 ∨ 1 ∉ m.dims.tail → Element.countArrays array ≤ data.length)) ∧
    ∀ {element : Oid} {load : Bytes → Except AdaptError Value} {count : Nat},
      ctx.elementLoader s element = .ok load → 0 < count → 2 * count < lengthLimit →
        ∃ (data : Bytes) (array : PgArray), data.length = 20 + 16 * count ∧
          (ctx.loadWith ⟨id, name, .arrayBinary⟩ oid data).result s = .ok (.array array) ∧
          Element.countArrays array = 2 * count ^ 2 + 1 := by
  refine ⟨fun {data v} h => ?_, fun {element load count} hload hpos hfits => ?_⟩
  · obtain ⟨m, rest, array, rfl, rfl, hm⟩ :=
      (result_loadWith_arrayBinary_eq_ok_iff s ctx id name oid data v).mp h
    refine ⟨m, rest, array, rfl, rfl, ?_⟩
    rcases hm with hnil | ⟨hne, -, hbox, -⟩
    · exact ⟨Nat.zero_le _, fun _ => by
        rw [List.length_append, m.length_bytes]
        exact Nat.le_trans (by decide : 1 ≤ 12) (by omega)⟩
    · have hdims : m.dims ≠ [] := mt Message.dims_eq_nil_iff.mp hne
      rw [countArrays_of_isBox hbox]
      exact ⟨m.boxCount_le_sq rest hdims, m.boxCount_le_length rest hdims⟩
  · refine ⟨(thin element hpos hfits).bytes, thinArray Value count,
      length_bytes_thin element hpos hfits, ?_, countArrays_thinArray⟩
    refine (result_loadWith_arrayBinary_eq_ok_iff s ctx id name oid _ _).mpr
      ⟨_, [], _, (List.append_nil _).symm, rfl, denotes_thin element hpos hfits hload⟩

/-! ### A hundred and eighty bytes -/

/-- Twenty `NULL`s, with ten dimensions of one behind the first. -/
def thinBytes : Bytes :=
  [0, 0, 0, 11, 0, 0, 0, 1, 0, 0, 0, 16, 0, 0, 0, 20, 0, 0, 0, 1] ++
    (List.replicate 10 [0, 0, 0, 1, 0, 0, 0, 1]).flatten ++
    (List.replicate 20 [0xFF, 0xFF, 0xFF, 0xFF]).flatten

/-- Two hundred and one arrays in a hundred and eighty bytes, which is as many as the square of the
length allows. -/
theorem loadWith_arrayBinary_countArrays_ten :
    let load := Context.loadWith {} ⟨2, "", .arrayBinary⟩ ⟨1000⟩
    ∃ (data : Bytes) (array : PgArray), data.length = 180 ∧
      (load data).result truthSession = .ok (.array array) ∧ Element.countArrays array = 201 ∧
      128 * (Element.countArrays array - 1) ≤ (data.length - 20) ^ 2 := by
  have hspec := loadWith_arrayBinary_countArrays truthSession {} 2 "" ⟨1000⟩
  obtain ⟨data, array, hlength, hload, hcount⟩ :=
    hspec.2 (rfl : Context.elementLoader {} truthSession .bool = _) (by decide : 0 < 10) (by decide)
  obtain ⟨m, rest, array', -, hv, hbound, -⟩ := hspec.1 hload
  cases hv
  exact ⟨data, array, hlength, hload, hcount, hbound⟩

/-- **A message with more arrays than bytes** is taken. -/
theorem loadWith_arrayBinary_thinBytes :
    ∃ array, (Context.loadWith {} ⟨2, "", .arrayBinary⟩ ⟨1000⟩ thinBytes).result truthSession =
        .ok (.array array) ∧
      thinBytes.length = 180 ∧ Element.countArrays array = 201 := by
  have hbytes : thinBytes =
      (thin .bool (by decide : 0 < 10) (by decide : 2 * 10 < lengthLimit)).bytes ++ [] := rfl
  refine ⟨thinArray Value 10, ?_, rfl, countArrays_thinArray⟩
  exact (result_loadWith_arrayBinary_eq_ok_iff _ _ _ _ _ _ _).mpr
    ⟨_, [], _, hbytes, rfl, denotes_thin .bool _ _ rfl⟩

end PgAdapt
