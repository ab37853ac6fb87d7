import PgAdapt.Dump
import PgAdapt.Load
import PgAdapt.Proofs.ArrayBinary.Message

/-!
# Binary arrays in any monad

How boxes are dumped and messages are loaded, with any way to dump and to load the elements. What a
message means is said without the loader, and the loader gives that and nothing else
(`PgAdapt.loadBinary_eq_ok_iff`).
-/

namespace PgAdapt

/-! ## Dumping and loading boxes

For a box both directions are straight: dump the leaves and write them
(`PgAdapt.dumpBinary_of_isBox`), find a loader and load the leaves (`PgAdapt.loadBinary_write`).
This holds in any monad, so it can be used for codecs in a session as well as for functions.
-/

section Boxes

open ArrayBinary

variable {α β : Type} {m : Type → Type} [Monad m] [MonadExceptOf AdaptError m]

/-! ### Dumping -/

/-- The type of elements that goes into the header: the type of the first value, or text. -/
def elementTypeOf (dumped : List (Option (Bytes × Oid))) : Oid :=
  ((dumped.filterMap id).head?.map Prod.snd).getD .text

theorem checkLength_of_lt {what : String} {length : Nat} (h : length < lengthLimit) :
    (checkLength what length : m Unit) = pure () := by
  rw [checkLength, if_neg (Nat.not_le.mpr h)]

variable [LawfulMonad m]

theorem forM_checkLength_of_lt {what : String} {lengths : List Nat}
    (h : ∀ length ∈ lengths, length < lengthLimit) :
    (lengths.forM (checkLength what) : m PUnit) = pure ⟨⟩ := by
  induction lengths with
  | nil => rfl
  | cons length lengths ih =>
    rw [List.forall_mem_cons] at h
    change (checkLength what length >>= fun _ => lengths.forM (checkLength what)) = _
    rw [checkLength_of_lt h.1, pure_bind, ih h.2]

/-- **Dumping a box**: the leaves are dumped, the lengths are checked, and everything is written. -/
theorem dumpBinary_of_isBox (dump : α → m (Bytes × Oid)) {dims : List Nat}
    {items : List (Element α)} (hzero : 0 ∉ dims) (hbox : IsBox dims items) :
    dumpBinary dump items = (do
      let dumped ← (Element.leavesAll items).mapM (dumpLeaf dump)
      checkLength "dimension count" dims.length
      dims.forM (checkLength "dimension")
      return (write (elementTypeOf dumped) dims (dumped.map (Option.map Prod.fst)),
        arrayTypeOver (some (elementTypeOf dumped)))) := by
  have hne : items.isEmpty = false := by
    cases items with
    | nil => cases dimensions_of_isBox hzero hbox
    | cons item items => rfl
  have hdims : MonadExcept.ofExcept ((dimensions items).mapError fun fault =>
      AdaptError.data fault.message) = (pure dims : m (List Nat)) := by
    rw [dimensions_of_isBox hzero hbox]
    rfl
  rw [dumpBinary, hne, hdims]
  simp only [pure_bind, flatten_of_isBox hbox]
  rfl

/-! ### Loading -/

/-- **Loading a box that has been written**: the loader for the type in the header loads the
leaves. -/
theorem loadBinary_write (loaderFor : Oid → m (Bytes → m β)) (element : Oid) {dims : List Nat}
    {leaves : List (Option Bytes)} (hfits : Fits dims) (hzero : 0 ∉ dims)
    (hcount : dims ≠ [] → dims.foldl (· * ·) 1 = leaves.length)
    (hleaves : ∀ bytes, some bytes ∈ leaves → bytes.length < lengthLimit) :
    loadBinary loaderFor (write element dims leaves) =
      if dims.isEmpty then pure []
      else do
        let load ← loaderFor element
        let loaded ← leaves.mapM (loadLeaf load)
        return arrange dims loaded := by
  have hheader : MonadExcept.ofExcept ((readHeader (write element dims leaves)).mapError
      fun fault => AdaptError.data fault.message) =
        (pure ⟨element, dims, leaves.flatMap writeItem⟩ : m Header) := by
    rw [readHeader_write element hfits hzero hcount]
    rfl
  rw [loadBinary, hheader]
  simp only [pure_bind]
  cases dims with
  | nil => rfl
  | cons dim dims =>
    rw [hcount (List.cons_ne_nil dim dims), readItems_flatMap hleaves]

end Boxes

/-! ## The meaning of a binary array

The messages that the loader of binary arrays takes are described by `PgAdapt.ArrayBinary.Message`:
a header with any flags and lower bounds, dimensions none of which is empty, and as many elements
as they announce. What such a message means, `PgAdapt.ArrayBinary.Message.Denotes`, does not
mention how it is read: an array that is a box of the given dimensions and whose leaves are, one by
one, what the loader of the elements gives for the elements.

The loader gives exactly that, and takes nothing else: `PgAdapt.loadBinary_eq_ok_iff`. Bytes behind
the last element are left alone.
-/

namespace ArrayBinary

/-! ### Messages -/

/-- A **message** that holds a binary array. -/
structure Message where
  /-- The word that tells whether there is a `NULL`. -/
  flags : UInt32
  /-- The type of the elements. -/
  element : Oid
  /-- The dimensions; an array without elements has none. -/
  dimensions : List Dimension
  /-- The bytes of the elements, row by row, or none for a `NULL`. -/
  items : List (Option Bytes)
  /-- The lengths of the dimensions, and their number, fit into the words for them. -/
  fits : Fits (dimensions.map Dimension.length)
  /-- No dimension is empty. -/
  zero_notMem : 0 ∉ dimensions.map Dimension.length
  /-- There are as many elements as the dimensions announce. -/
  length_items : items.length =
    if dimensions = [] then 0 else (dimensions.map Dimension.length).foldl (· * ·) 1
  /-- The lengths of the elements fit into the words for them. -/
  itemFits : ∀ item ∈ items, ItemFits item

namespace Message

/-- The lengths of the dimensions. -/
def dims (m : Message) : List Nat := m.dimensions.map Dimension.length

/-- The bytes of a message. -/
def bytes (m : Message) : Bytes :=
  headerBytes m.flags m.element m.dimensions ++ m.items.flatMap writeItem

variable {m : Message}

theorem dims_eq_nil_iff : m.dims = [] ↔ m.dimensions = [] := List.map_eq_nil_iff

theorem length_items_of_ne_nil (h : m.dimensions ≠ []) :
    m.items.length = m.dims.foldl (· * ·) 1 := by
  rw [m.length_items, if_neg h]
  rfl

/-- The header takes up three words, and two for each dimension. -/
theorem length_bytes (m : Message) :
    m.bytes.length = 12 + 8 * m.dims.length + (m.items.flatMap writeItem).length := by
  have hdimensions (ds : List Dimension) : (ds.flatMap Dimension.bytes).length = 8 * ds.length := by
    induction ds with
    | nil => rfl
    | cons d ds ih =>
      simp only [List.flatMap_cons, List.length_append, Dimension.bytes, length_word, ih,
        List.length_cons]
      omega
  simp only [bytes, headerBytes, List.length_append, length_word, hdimensions, dims,
    List.length_map]
  omega

/-- **The elements of a message are bounded by its length.** -/
theorem foldl_dims_le (h : m.dimensions ≠ []) (rest : Bytes) :
    m.dims.foldl (· * ·) 1 ≤ ((m.bytes ++ rest).length - 12 - 8 * m.dims.length) / 4 := by
  have hitems := length_le_length_flatMap_writeItem m.items
  rw [length_items_of_ne_nil h] at hitems
  rw [List.length_append, length_bytes]
  omega

/-- The bytes of an element are shorter than the message. -/
theorem length_lt_length_bytes {part : Bytes} (h : some part ∈ m.items) :
    part.length < m.bytes.length := by
  obtain ⟨before, after, hitems⟩ := List.append_of_mem h
  rw [length_bytes, hitems]
  simp only [List.flatMap_append, List.flatMap_cons, List.length_append, writeItem, length_word]
  omega

/-- The header of a message is read, and leaves the elements and what is behind them. -/
theorem readHeader_bytes_append (m : Message) (rest : Bytes) : readHeader (m.bytes ++ rest) =
    .ok ⟨m.element, m.dims, m.items.flatMap writeItem ++ rest⟩ := by
  refine readHeader_eq_ok_iff.mpr ⟨m.flags, m.dimensions, rfl, m.fits, m.zero_notMem, ?_, ?_⟩
  · intro hdims
    have h := length_le_length_flatMap_writeItem m.items
    rw [length_items_of_ne_nil (mt dims_eq_nil_iff.mpr hdims)] at h
    rw [List.length_append]
    omega
  · rw [bytes, List.append_assoc]

/-- **The meaning of a message**: an array that has the dimensions of the message throughout, and
whose leaves are what the loader that is found for the type of the elements gives for them. -/
inductive Denotes {β : Type} (m : Message)
    (loaderFor : Oid → Except AdaptError (Bytes → Except AdaptError β)) :
    List (Element β) → Prop where
  /-- Without dimensions there is nothing to load. -/
  | empty (h : m.dimensions = []) : Denotes m loaderFor []
  /-- With dimensions the array is a box. -/
  | box {load : Bytes → Except AdaptError β} {array : List (Element β)} (h : m.dimensions ≠ [])
      (found : loaderFor m.element = .ok load) (isBox : IsBox m.dims array)
      (leaves : List.Forall₂ (Option.Rel fun part b => load part = .ok b) m.items
        (Element.leavesAll array)) : Denotes m loaderFor array

end Message

/-! ### The shape of what has been loaded -/

/-- An array **has a shape**: the checks that its dumper makes of the shape all succeed. -/
def HasShape {α : Type} (array : List (Element α)) : Prop :=
  array = [] ∨ ∃ dims, dimensions array = .ok dims ∧ (flatten dims array).2 = none ∧ Fits dims

/-- **What a message denotes has a shape.** -/
theorem Message.Denotes.hasShape {m : Message} {β : Type}
    {loaderFor : Oid → Except AdaptError (Bytes → Except AdaptError β)} {array : List (Element β)}
    (h : m.Denotes loaderFor array) : HasShape array := by
  cases h with
  | empty => exact .inl rfl
  | box _ _ hbox _ =>
    exact .inr ⟨m.dims, dimensions_of_isBox m.zero_notMem hbox,
      congrArg Prod.snd (flatten_of_isBox hbox), m.fits⟩

end ArrayBinary

/-! ### The loader -/

section Loader

open ArrayBinary

variable {β : Type}

theorem loadLeaf_eq_ok_iff {load : Bytes → Except AdaptError β} {item : Option Bytes}
    {leaf : Option β} :
    loadLeaf load item = .ok leaf ↔ Option.Rel (fun part b => load part = .ok b) item leaf := by
  rcases item with _ | part
  · constructor
    · intro h
      cases h
      exact .none
    · rintro ⟨⟩
      rfl
  · rw [loadLeaf, bind_eq_ok_iff]
    constructor
    · rintro ⟨b, hb, h⟩
      cases h
      exact .some hb
    · rintro ⟨⟩
      exact ⟨_, ‹_›, rfl⟩

theorem ofExcept_mapError_eq_ok_iff {ε ε' α : Type} {a : Except ε α} {f : ε → ε'} {x : α} :
    (MonadExcept.ofExcept (a.mapError f) : Except ε' α) = .ok x ↔ a = .ok x := by
  have h : (MonadExcept.ofExcept (a.mapError f) : Except ε' α) = a.mapError f := by
    rcases a with e | y <;> rfl
  rw [h, mapError_eq_ok_iff]

/-- **The loader of binary arrays** takes exactly the messages, with any bytes behind them, and
gives what they denote. -/
theorem loadBinary_eq_ok_iff {loaderFor : Oid → Except AdaptError (Bytes → Except AdaptError β)}
    {data : Bytes} {array : List (Element β)} :
    loadBinary loaderFor data = .ok array ↔
      ∃ (m : Message) (rest : Bytes), data = m.bytes ++ rest ∧ m.Denotes loaderFor array := by
  rw [loadBinary, bind_eq_ok_iff]
  constructor
  · rintro ⟨⟨element, dims, body⟩, hheader, h⟩
    rw [ofExcept_mapError_eq_ok_iff, readHeader_eq_ok_iff] at hheader
    obtain ⟨flags, ds, rfl, hfits, hzero, -, rfl⟩ := hheader
    by_cases hds : ds = []
    · subst hds
      cases h
      exact ⟨⟨flags, element, [], [], hfits, hzero, rfl, by simp⟩, body,
        by simp [Message.bytes], .empty rfl⟩
    · have hdims : ds.map Dimension.length ≠ [] := by rwa [Ne, List.map_eq_nil_iff]
      rw [if_neg (mt List.isEmpty_iff.mp hdims), bind_eq_ok_iff] at h
      obtain ⟨load, hload, h⟩ := h
      rcases hitems : readItems ((ds.map Dimension.length).foldl (· * ·) 1) body with
        ⟨items, fault?⟩
      rw [hitems] at h
      dsimp only at h
      rw [bind_eq_ok_iff] at h
      obtain ⟨leaves, hleaves, h⟩ := h
      rcases fault? with _ | fault
      · cases h
        obtain ⟨hlength, hitemFits, rest, rfl⟩ := readItems_eq_iff.mp hitems
        simp only [mapM_eq_ok_iff, loadLeaf_eq_ok_iff] at hleaves
        have hcount : leaves.length = (ds.map Dimension.length).foldl (· * ·) 1 :=
          hleaves.length_eq.symm.trans hlength
        refine ⟨⟨flags, element, ds, items, hfits, hzero, by rwa [if_neg hds], hitemFits⟩, rest,
          by rw [Message.bytes, List.append_assoc], ?_⟩
        refine .box hds hload (isBox_arrange hdims hcount) ?_
        rwa [leavesAll_arrange hdims hcount]
      · cases h
  · rintro ⟨m, rest, rfl, hm⟩
    refine ⟨_, ofExcept_mapError_eq_ok_iff.mpr (m.readHeader_bytes_append rest), ?_⟩
    cases hm with
    | empty h =>
      rw [if_pos (List.isEmpty_iff.mpr (Message.dims_eq_nil_iff.mpr h))]
      rfl
    | @box load _ h hload hbox hleaves =>
      have hitems : readItems (m.dims.foldl (· * ·) 1) (m.items.flatMap writeItem ++ rest) =
          (m.items, none) :=
        readItems_eq_iff.mpr ⟨Message.length_items_of_ne_nil h, m.itemFits, rest, rfl⟩
      rw [if_neg (mt (Message.dims_eq_nil_iff.mp ∘ List.isEmpty_iff.mp) h)]
      refine bind_eq_ok_iff.mpr ⟨load, hload, ?_⟩
      rw [hitems]
      refine bind_eq_ok_iff.mpr ⟨Element.leavesAll array, ?_, ?_⟩
      · simp only [mapM_eq_ok_iff, loadLeaf_eq_ok_iff]
        exact hleaves
      · rw [arrange_leavesAll hbox]
        rfl

end Loader

end PgAdapt
