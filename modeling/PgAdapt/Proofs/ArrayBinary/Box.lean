import Mathlib.Data.List.Basic
import Mathlib.Data.List.Infix
import PgAdapt.ArrayBinary
import PgAdapt.Proofs.Element

/-!
# The shape of binary arrays

The arrays that have a binary form are boxes. The two ways of the writer through an array agree on
them, and the reader puts them together again; and the writer accepts nothing else.
-/

namespace PgAdapt

/-! ## Boxes

A binary array is a box, `PgAdapt.ArrayBinary.IsBox`: at every depth all arrays have the length
that is given for the depth, and all leaves lie below the last one.

For boxes the two ways through an array agree. The writer takes the dimensions from the first
arrays and lists the leaves (`PgAdapt.ArrayBinary.dimensions_of_isBox`,
`PgAdapt.ArrayBinary.flatten_of_isBox`), and the reader arranges the leaves in these dimensions,
which gives the box back (`PgAdapt.ArrayBinary.arrange_leavesAll`). Whatever leaves the reader
arranges, a box comes of it if there are as many as the dimensions announce
(`PgAdapt.ArrayBinary.isBox_arrange`). Each of these is an induction on the list of dimensions,
with one case for the innermost arrays and one for the arrays around them.
-/

namespace ArrayBinary

open Element

variable {α β : Type}

/-! ### The number of leaves -/

/-- The number of leaves that dimensions announce. -/
theorem foldl_mul_cons (length : Nat) (inner : List Nat) :
    (length :: inner).foldl (· * ·) 1 = length * inner.foldl (· * ·) 1 := by
  rw [List.foldl_cons, Nat.mul_comm 1 length]
  exact List.foldl_assoc

/-! ### Listing the leaves of any array -/

/-- What has been listed are the leaves, at least those before a fault. -/
def Lists (found : Flattened α) (all : List (Option α)) : Prop :=
  found.1 <+: all ∧ (found.2 = none → found.1 = all)

theorem lists_flattenEach {leaves : Element α → Flattened α} (items : List (Element α))
    (h : ∀ item ∈ items, Lists (leaves item) item.leaves) :
    Lists (flattenEach leaves items) (leavesAll items) := by
  induction items with
  | nil => exact ⟨List.prefix_refl [], fun _ => rfl⟩
  | cons item items ih =>
    rw [List.forall_mem_cons] at h
    obtain ⟨hhead, hall⟩ := h.1
    rw [flattenEach, leavesAll]
    -- After a fault nothing more is listed, so only a first part of the leaves has been found.
    rcases hitem : leaves item with ⟨found, _ | fault⟩
    · obtain rfl : found = item.leaves := by simpa [hitem] using hall
      obtain ⟨hhead', hall'⟩ := ih h.2
      exact ⟨(List.prefix_append_right_inj _).mpr hhead',
        fun hnone => congrArg (item.leaves ++ ·) (hall' hnone)⟩
    · rw [hitem] at hhead
      exact ⟨hhead.trans (List.prefix_append _ _), fun hnone => by cases hnone⟩

/-- **The leaves are listed from left to right**, up to the first fault in the shape. -/
theorem lists_flatten : ∀ (dims : List Nat) (items : List (Element α)),
    Lists (flatten dims items) (leavesAll items)
  | [], items => ⟨List.nil_prefix, fun h => by cases h⟩
  | length :: inner, items => by
    have hfault (fault : ShapeFault) (all : List (Option α)) : Lists ([], some fault) all :=
      ⟨List.nil_prefix, fun h => by cases h⟩
    rw [flatten]
    split_ifs
    · refine lists_flattenEach items fun item _ => ?_
      rcases inner with _ | ⟨next, inner⟩ <;> rcases item with _ | a | below
      · exact ⟨List.prefix_refl _, fun _ => rfl⟩
      · exact ⟨List.prefix_refl _, fun _ => rfl⟩
      · exact hfault _ _
      · exact hfault _ _
      · exact hfault _ _
      · exact lists_flatten (next :: inner) below
    · exact hfault _ _

/-- The leaves that are listed up to a fault are values of the array. -/
theorem mem_valuesAll_of_mem_flatten {dims : List Nat} {items : List (Element α)} {a : α}
    (h : some a ∈ (flatten dims items).1) : a ∈ valuesAll items :=
  mem_valuesAll_iff.mpr ((lists_flatten dims items).1.subset h)

/-! ### Boxes -/

/-- An array is a **box** of given dimensions. -/
def IsBox : List Nat → List (Element α) → Prop
  | [], _ => False
  | [length], items => items.length = length ∧ ∀ item ∈ items, item.array? = none
  | length :: inner, items =>
    items.length = length ∧ ∀ item ∈ items, ∃ below, item = .array below ∧ IsBox inner below

/-- The arrays in a box all have as many leaves as their dimensions announce, and so does the
box. -/
theorem IsBox.length_leavesAll : ∀ {dims : List Nat} {items : List (Element α)},
    IsBox dims items → (leavesAll items).length = dims.foldl (· * ·) 1
  | [length], items, h => by
    obtain ⟨rfl, hleaf⟩ := h
    rw [foldl_mul_cons, List.foldl_nil, Nat.mul_one]
    induction items with
    | nil => rfl
    | cons item items ih =>
      rw [List.forall_mem_cons] at hleaf
      rw [leavesAll, List.length_append, ih hleaf.2, List.length_cons, Nat.add_comm]
      rcases eq_null_or_value hleaf.1 with rfl | ⟨a, rfl⟩ <;> rfl
  | length :: next :: inner, items, h => by
    obtain ⟨rfl, hbelow⟩ := h
    rw [foldl_mul_cons]
    induction items with
    | nil => simp [leavesAll]
    | cons item items ih =>
      rw [List.forall_mem_cons] at hbelow
      obtain ⟨⟨below, rfl, hbox⟩, hrest⟩ := hbelow
      rw [leavesAll, leaves, List.length_append, hbox.length_leavesAll, ih hrest,
        List.length_cons, Nat.succ_mul, Nat.add_comm]

/-- Replacing the values of a box gives a box. -/
theorem IsBox.mapAll (f : α → β) : ∀ {dims : List Nat} {items : List (Element α)},
    IsBox dims items → IsBox dims (Element.mapAll f items)
  | [length], items, h => by
    obtain ⟨rfl, hleaf⟩ := h
    rw [mapAll_eq_map]
    refine ⟨List.length_map _, List.forall_mem_map.mpr fun item hitem => ?_⟩
    rcases eq_null_or_value (hleaf item hitem) with rfl | ⟨a, rfl⟩ <;> rfl
  | length :: next :: inner, items, h => by
    obtain ⟨rfl, hbelow⟩ := h
    rw [mapAll_eq_map]
    refine ⟨List.length_map _, List.forall_mem_map.mpr fun item hitem => ?_⟩
    obtain ⟨below, rfl, hbox⟩ := hbelow item hitem
    exact ⟨Element.mapAll f below, by rw [map], hbox.mapAll f⟩

/-! ### What the writer makes of a box -/

/-- The first arrays of a box have its dimensions. -/
theorem dimensions_of_isBox : ∀ {dims : List Nat} {items : List (Element α)},
    0 ∉ dims → IsBox dims items → dimensions items = .ok dims
  | length :: inner, [], h, hbox => by
    have hlength : 0 = length := by
      cases inner with
      | nil => exact hbox.1
      | cons next inner => exact hbox.1
    exact absurd (hlength ▸ List.mem_cons_self) h
  | [length], first :: rest, _, hbox => by
    obtain ⟨rfl, hleaf⟩ := hbox
    rcases eq_null_or_value (hleaf first List.mem_cons_self) with rfl | ⟨a, rfl⟩ <;> rfl
  | length :: next :: inner, first :: rest, h, hbox => by
    obtain ⟨rfl, hbelow⟩ := hbox
    obtain ⟨below, rfl, hbox'⟩ := hbelow first List.mem_cons_self
    rw [List.mem_cons, not_or] at h
    rw [dimensions, dimensionsBelow, dimensions_of_isBox h.2 hbox']
    rfl

theorem flattenEach_eq {leaves : Element α → Flattened α} {items : List (Element α)}
    (h : ∀ item ∈ items, leaves item = (item.leaves, none)) :
    flattenEach leaves items = (leavesAll items, none) := by
  induction items with
  | nil => rfl
  | cons item items ih =>
    rw [List.forall_mem_cons] at h
    rw [flattenEach, h.1, ih h.2]
    rfl

/-- The leaves of a box are listed without a fault. -/
theorem flatten_of_isBox : ∀ {dims : List Nat} {items : List (Element α)},
    IsBox dims items → flatten dims items = (leavesAll items, none)
  | [length], items, h => by
    rw [flatten, if_pos h.1]
    refine flattenEach_eq fun item hitem => ?_
    rcases eq_null_or_value (h.2 item hitem) with rfl | ⟨a, rfl⟩ <;> rfl
  | length :: next :: inner, items, h => by
    rw [flatten, if_pos h.1]
    refine flattenEach_eq fun item hitem => ?_
    obtain ⟨below, rfl, hbox⟩ := h.2 item hitem
    exact flatten_of_isBox hbox

/-! ### What the reader makes of it -/

/-- Pieces of equal length are cut apart again. -/
theorem pieces_leavesAll {size : Nat} {items : List (Element α)}
    (h : ∀ item ∈ items, item.leaves.length = size) :
    pieces size items.length (leavesAll items) = items.map leaves := by
  induction items with
  | nil => rfl
  | cons item items ih =>
    rw [List.forall_mem_cons] at h
    rw [List.length_cons, pieces, leavesAll, List.take_left' h.1, List.drop_left' h.1, ih h.2,
      List.map_cons]

theorem ofOptions_leavesAll {items : List (Element α)}
    (h : ∀ item ∈ items, item.array? = none) : ofOptions (leavesAll items) = items := by
  induction items with
  | nil => rfl
  | cons item items ih =>
    rw [List.forall_mem_cons] at h
    rcases eq_null_or_value h.1 with rfl | ⟨a, rfl⟩
    · exact congrArg (.null :: ·) (ih h.2)
    · exact congrArg (.value a :: ·) (ih h.2)

/-- **A box is arranged from its leaves.** -/
theorem arrange_leavesAll : ∀ {dims : List Nat} {items : List (Element α)},
    IsBox dims items → arrange dims (leavesAll items) = items
  | [length], items, h => ofOptions_leavesAll h.2
  | length :: next :: inner, items, h => by
    obtain ⟨rfl, hbelow⟩ := h
    -- The arrays below all have as many leaves as the inner dimensions announce, so the leaves
    -- fall apart into those of each.
    have hsize : ∀ item ∈ items, item.leaves.length = (next :: inner).foldl (· * ·) 1 := by
      intro item hitem
      obtain ⟨below, rfl, hbox⟩ := hbelow item hitem
      exact hbox.length_leavesAll
    rw [arrange, pieces_leavesAll hsize, List.map_map]
    · refine (List.map_congr_left fun item hitem => ?_).trans (List.map_id items)
      obtain ⟨below, rfl, hbox⟩ := hbelow item hitem
      exact congrArg Element.array (arrange_leavesAll hbox)
    · exact List.cons_ne_nil next inner

/-! ### What the reader makes of any leaves -/

/-- Pieces put one behind the other again. -/
theorem leavesAll_map_array {size : Nat} {f : List (Option α) → List (Element α)}
    (hf : ∀ piece, piece.length = size → leavesAll (f piece) = piece) (count : Nat)
    {leaves : List (Option α)} (h : leaves.length = count * size) :
    leavesAll ((pieces size count leaves).map fun piece => .array (f piece)) = leaves := by
  induction count generalizing leaves with
  | zero =>
    rw [Nat.zero_mul, List.length_eq_zero_iff] at h
    rw [h]
    rfl
  | succ count ih =>
    rw [Nat.succ_mul] at h
    have htake : (leaves.take size).length = size := List.length_take_of_le (by omega)
    have hdrop : (leaves.drop size).length = count * size := by
      rw [List.length_drop]
      omega
    rw [pieces, List.map_cons, leavesAll, Element.leaves, hf _ htake, ih hdrop,
      List.take_append_drop]

theorem length_pieces (size count : Nat) (leaves : List β) :
    (pieces size count leaves).length = count := by
  induction count generalizing leaves with
  | zero => rfl
  | succ count ih => rw [pieces, List.length_cons, ih]

/-- The pieces all have the same length, if there are enough leaves for that. -/
theorem length_of_mem_pieces {size count : Nat} {leaves piece : List β}
    (h : leaves.length = count * size) (hpiece : piece ∈ pieces size count leaves) :
    piece.length = size := by
  induction count generalizing leaves with
  | zero => cases hpiece
  | succ count ih =>
    rw [Nat.succ_mul] at h
    rcases List.mem_cons.mp hpiece with rfl | hpiece
    · exact List.length_take_of_le (by omega)
    · refine ih ?_ hpiece
      rw [List.length_drop]
      omega

theorem leavesAll_ofOptions (leaves : List (Option α)) : leavesAll (ofOptions leaves) = leaves := by
  induction leaves with
  | nil => rfl
  | cons leaf leaves ih =>
    rcases leaf with _ | a
    · exact congrArg (none :: ·) ih
    · exact congrArg (some a :: ·) ih

/-- **The leaves of an arranged array** are those it has been arranged from. -/
theorem leavesAll_arrange : ∀ {dims : List Nat} {leaves : List (Option α)},
    dims ≠ [] → leaves.length = dims.foldl (· * ·) 1 → leavesAll (arrange dims leaves) = leaves
  | [length], leaves, _, _ => leavesAll_ofOptions leaves
  | length :: next :: inner, leaves, _, h => by
    rw [foldl_mul_cons] at h
    rw [arrange]
    · exact leavesAll_map_array
        (fun piece hpiece => leavesAll_arrange (List.cons_ne_nil next inner) hpiece) length h
    · exact List.cons_ne_nil next inner

/-- **An arranged array is a box** of the dimensions it has been arranged in. -/
theorem isBox_arrange : ∀ {dims : List Nat} {leaves : List (Option α)},
    dims ≠ [] → leaves.length = dims.foldl (· * ·) 1 → IsBox dims (arrange dims leaves)
  | [length], leaves, _, h => by
    rw [foldl_mul_cons, List.foldl_nil, Nat.mul_one] at h
    refine ⟨(List.length_map _).trans h, List.forall_mem_map.mpr fun leaf _ => ?_⟩
    rcases leaf with _ | a <;> rfl
  | length :: next :: inner, leaves, _, h => by
    rw [foldl_mul_cons] at h
    rw [arrange]
    · refine ⟨(List.length_map _).trans (length_pieces _ length leaves),
        List.forall_mem_map.mpr fun piece hpiece => ?_⟩
      exact ⟨arrange (next :: inner) piece, rfl,
        isBox_arrange (List.cons_ne_nil next inner) (length_of_mem_pieces h hpiece)⟩
    · exact List.cons_ne_nil next inner

end ArrayBinary

/-! ## Which arrays have a shape

The writer does not check the shape of an array beforehand. It reads the dimensions off the first
arrays, and whether the others agree comes out while it lists the leaves. Taken together,
`PgAdapt.ArrayBinary.shape`, the two ways through the array accept nothing but boxes, and every box
without empty arrays: `PgAdapt.ArrayBinary.shape_eq_ok_iff`. That a box is accepted is in the theory
of boxes; here it is shown that what is accepted is a box.

The writer has an answer to the case that no dimension is left for an array, but never comes to give
it (`PgAdapt.ArrayBinary.flattenOr_eq_flatten`).
-/

namespace ArrayBinary

open Element

variable {α β : Type}

/-! ### The dimensions -/

mutual

theorem zero_notMem_of_dimensionsBelow : ∀ {item : Element α} {dims : List Nat},
    dimensionsBelow item = .ok dims → 0 ∉ dims
  | .null, _, h | .value _, _, h => by
    cases h
    exact List.not_mem_nil
  | .array items, _, h => (zero_notMem_of_dimensions h).2

/-- The dimensions that are read off an array are never zero, and there is one at least. -/
theorem zero_notMem_of_dimensions : ∀ {items : List (Element α)} {dims : List Nat},
    dimensions items = .ok dims → dims ≠ [] ∧ 0 ∉ dims
  | [], _, h => by cases h
  | first :: rest, dims, h => by
    obtain ⟨inner, hinner, rfl⟩ := map_eq_ok_iff.mp h
    refine ⟨List.cons_ne_nil _ _, ?_⟩
    rw [List.mem_cons, not_or]
    exact ⟨(Nat.succ_ne_zero _).symm, zero_notMem_of_dimensionsBelow hinner⟩

end

mutual

theorem dimensionsBelow_map (f : α → β) :
    ∀ item : Element α, dimensionsBelow (item.map f) = dimensionsBelow item
  | .null | .value _ => rfl
  | .array items => dimensions_mapAll f items

/-- Replacing the values changes no dimension. -/
theorem dimensions_mapAll (f : α → β) :
    ∀ items : List (Element α), dimensions (mapAll f items) = dimensions items
  | [] => rfl
  | first :: rest => by
    rw [mapAll, dimensions, dimensions, dimensionsBelow_map f first, mapAll_eq_map,
      List.length_map]

end

/-! ### Faults in the shape -/

theorem flattenEach_snd_eq_none_iff {leaves : Element α → Flattened α} {items : List (Element α)} :
    (flattenEach leaves items).2 = none ↔ ∀ item ∈ items, (leaves item).2 = none := by
  induction items with
  | nil => simp [flattenEach]
  | cons item items ih =>
    rw [flattenEach, List.forall_mem_cons, ← ih]
    rcases leaves item with ⟨found, _ | fault⟩ <;> simp

/-- **What is listed without a fault is a box.** -/
theorem isBox_of_flatten : ∀ {dims : List Nat} {items : List (Element α)},
    (flatten dims items).2 = none → IsBox dims items
  | [], _, h => by cases h
  | [length], items, h => by
    rw [flatten] at h
    split_ifs at h with hlength
    · refine ⟨hlength, fun item hitem => ?_⟩
      have hleaf := flattenEach_snd_eq_none_iff.mp h item hitem
      cases item with
      | null | value => rfl
      | array below => cases hleaf
  | length :: next :: inner, items, h => by
    rw [flatten] at h
    split_ifs at h with hlength
    · refine ⟨hlength, fun item hitem => ?_⟩
      have hleaf := flattenEach_snd_eq_none_iff.mp h item hitem
      cases item with
      | null | value => cases hleaf
      | array below => exact ⟨below, rfl, isBox_of_flatten hleaf⟩

/-- The **shape** of an array: its dimensions, if they hold throughout, or else the first fault. -/
def shape (items : List (Element α)) : Except ShapeFault (List Nat) := do
  let dims ← dimensions items
  match (flatten dims items).2 with
  | none => return dims
  | some fault => throw fault

/-- **The arrays that have a shape are the boxes without empty arrays.** -/
theorem shape_eq_ok_iff {dims : List Nat} {items : List (Element α)} :
    shape items = .ok dims ↔ 0 ∉ dims ∧ IsBox dims items := by
  constructor
  · intro h
    obtain ⟨dims', hdims, h⟩ := bind_eq_ok_iff.mp h
    cases hfault : (flatten dims' items).2 with
    | none =>
      rw [hfault] at h
      cases h
      exact ⟨(zero_notMem_of_dimensions hdims).2, isBox_of_flatten hfault⟩
    | some fault =>
      rw [hfault] at h
      cases h
  · rintro ⟨hzero, hbox⟩
    refine bind_eq_ok_iff.mpr ⟨dims, dimensions_of_isBox hzero hbox, ?_⟩
    rw [flatten_of_isBox hbox]
    rfl

/-- The fault of an array without a shape is found in one of the two ways. -/
theorem shape_eq_error_iff {items : List (Element α)} {fault : ShapeFault} :
    shape items = .error fault ↔ dimensions items = .error fault ∨
      ∃ dims, dimensions items = .ok dims ∧ (flatten dims items).2 = some fault := by
  rw [shape]
  cases dimensions items with
  | error fault' => simp [bind, Except.bind]
  | ok dims =>
    cases hfault : (flatten dims items).2 <;>
      simp [bind, Except.bind, hfault, pure, Except.pure, throw, throwThe, MonadExceptOf.throw]

/-! ### The dimensions are never used up -/

/-- The leaves of an array, listed as by `PgAdapt.ArrayBinary.flatten`, with a given outcome where
no dimension is left for an array. -/
def flattenOr (usedUp : List (Element α) → Flattened α) :
    List Nat → List (Element α) → Flattened α
  | [], items => usedUp items
  | length :: inner, items =>
    if items.length = length then
      flattenEach (fun item =>
        match inner, item with
        | _ :: _, .array items => flattenOr usedUp inner items
        | [], .null => ([none], none)
        | [], .value a => ([some a], none)
        | _, _ => ([], some .depths)) items
    else ([], some .lengths)

theorem flattenEach_congr {leaves leaves' : Element α → Flattened α} {items : List (Element α)}
    (h : ∀ item ∈ items, leaves item = leaves' item) :
    flattenEach leaves items = flattenEach leaves' items := by
  induction items with
  | nil => rfl
  | cons item items ih =>
    rw [List.forall_mem_cons] at h
    rw [flattenEach, flattenEach, h.1, ih h.2]

theorem flatten_eq_flattenOr : ∀ (dims : List Nat) (items : List (Element α)),
    flatten dims items = flattenOr (fun _ => ([], some .depths)) dims items
  | [], items => rfl
  | length :: inner, items => by
    rw [flatten, flattenOr]
    refine congrArg (ite _ · _) (flattenEach_congr fun item _ => ?_)
    rcases inner with _ | ⟨next, inner⟩ <;> rcases item with _ | a | below
    iterate 5 rfl
    exact flatten_eq_flattenOr (next :: inner) below

/-- **It never happens that no dimension is left for an array**, once there is one to begin with.
So it does not matter what would come of it. -/
theorem flattenOr_eq_flatten (usedUp : List (Element α) → Flattened α) :
    ∀ {dims : List Nat} (items : List (Element α)), dims ≠ [] →
      flattenOr usedUp dims items = flatten dims items
  | length :: inner, items, _ => by
    rw [flatten, flattenOr]
    refine congrArg (ite _ · _) (flattenEach_congr fun item _ => ?_)
    rcases inner with _ | ⟨next, inner⟩ <;> rcases item with _ | a | below
    iterate 5 rfl
    exact flattenOr_eq_flatten usedUp below (List.cons_ne_nil next inner)

end ArrayBinary

end PgAdapt
