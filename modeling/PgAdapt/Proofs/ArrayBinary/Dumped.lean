import PgAdapt.Proofs.RoundTrip.Binary

/-!
# Which arrays have a binary form

`PgAdapt.dumpBinary_eq_ok_iff` says when an array is dumped to a binary array, and to which one:
it has no elements, or it is a box without empty arrays, of dimensions that fit, whose leaves can
be dumped. Where the leaves are not at fault, the shape decides (`PgAdapt.dumpArray_binary_shape`):
boxes are dumped, and the rest is refused for its shape.
-/

namespace PgAdapt

open ArrayBinary

variable {α : Type} {f : α → Except AdaptError (Bytes × Oid)} {items : List (Element α)}
  {dims : List Nat}

/-! ### What is dumped -/

/-- The binary array of given dimensions for leaves that have been dumped, and its type. -/
def dumpedMessage (dims : List Nat) (dumped : List (Option (Bytes × Oid))) : Bytes × Oid :=
  (write (elementTypeOf dumped) dims (dumped.map (Option.map Prod.fst)),
    arrayTypeOver (some (elementTypeOf dumped)))

theorem dumpBinary_of_ne_nil (hne : items ≠ []) : dumpBinary f items = (do
    let dims ← MonadExcept.ofExcept ((dimensions items).mapError fun fault =>
      AdaptError.data fault.message)
    let dumped ← (flatten dims items).1.mapM (dumpLeaf f)
    match (flatten dims items).2 with
    | some fault => throw (.data fault.message)
    | none => checkedMessage dims (dumpedMessage dims dumped)) := by
  have hempty : items.isEmpty = false := by
    cases items with
    | nil => exact absurd rfl hne
    | cons item items => rfl
  rw [dumpBinary, hempty]
  refine congrArg (_ >>= ·) (funext fun dims => ?_)
  rcases flatten dims items with ⟨leaves, _ | fault⟩ <;> rfl

/-- Only messages with dimensions that fit are made. -/
theorem checkedMessage_eq_ok_iff {x y : Bytes × Oid} :
    checkedMessage dims x = .ok y ↔ Fits dims ∧ x = y := by
  by_cases hfits : Fits dims
  · rw [checkedMessage_of_fits hfits, Except.ok.injEq]
    exact (and_iff_right hfits).symm
  · obtain ⟨what, hwhat⟩ := checkedMessage_of_not_fits hfits x
    rw [hwhat]
    exact ⟨nofun, fun h => absurd h.1 hfits⟩

/-- A leaf is dumped as its value, to no more bytes than fit. -/
theorem dumpLeaf_some_eq_ok_iff {a : α} {y : Option (Bytes × Oid)} : dumpLeaf f (some a) = .ok y ↔
    ∃ x, f a = .ok x ∧ x.1.length < lengthLimit ∧ y = some x := by
  rw [dumpLeaf, bind_eq_ok_iff]
  refine exists_congr fun x => and_congr_right fun _ => ?_
  change (checkLength "element" x.1.length >>= fun _ => pure (some x)) = _ ↔ _
  by_cases hlength : x.1.length < lengthLimit
  · rw [checkLength_of_lt hlength, pure_bind, and_iff_right hlength]
    exact ⟨fun h => (Except.ok.inj h).symm, fun h => congrArg Except.ok h.symm⟩
  · have hrefused : (checkLength "element" x.1.length : Except AdaptError Unit) =
        .error (.data "element too large for a binary array") :=
      if_pos (Nat.le_of_not_lt hlength)
    rw [hrefused]
    exact ⟨nofun, fun h => absurd h.1 hlength⟩

/-- What a value is dumped to, if it is dumped. -/
def dumpedTo (f : α → Except AdaptError (Bytes × Oid)) (a : α) : Bytes × Oid :=
  (f a).toOption.getD default

theorem dumpedTo_eq {a : α} {x : Bytes × Oid} (h : f a = .ok x) : dumpedTo f a = x := by
  rw [dumpedTo, h]
  rfl

/-- **Leaves are dumped one by one**, each as its value. -/
theorem mapM_dumpLeaf_eq_ok_iff {leaves : List (Option α)} {dumped : List (Option (Bytes × Oid))} :
    leaves.mapM (dumpLeaf f) = .ok dumped ↔ ∃ g : α → Bytes × Oid,
      (∀ a, some a ∈ leaves → f a = .ok (g a) ∧ (g a).1.length < lengthLimit) ∧
        dumped = leaves.map (Option.map g) := by
  rw [mapM_eq_ok_iff]
  constructor
  · intro h
    refine ⟨dumpedTo f, ?_⟩
    induction h with
    | nil => simp
    | @cons leaf y leaves dumped hleaf hrest ih =>
      obtain ⟨hvalues, rfl⟩ := ih
      rcases leaf with _ | a
      · cases hleaf
        simpa using hvalues
      · obtain ⟨x, hx, hlength, rfl⟩ := dumpLeaf_some_eq_ok_iff.mp hleaf
        obtain rfl := dumpedTo_eq hx
        refine ⟨fun a' ha' => ?_, rfl⟩
        rcases List.mem_cons.mp ha' with h | ha'
        · cases h
          exact ⟨hx, hlength⟩
        · exact hvalues a' ha'
  · rintro ⟨g, hvalues, rfl⟩
    rw [List.forall₂_map_right_iff, List.forall₂_same]
    rintro (_ | a) ha
    · rfl
    · obtain ⟨ha, hlength⟩ := hvalues a ha
      exact dumpLeaf_some_eq_ok_iff.mpr ⟨_, ha, hlength, rfl⟩

/-- **What an array is dumped to, and when it is.** -/
theorem dumpBinary_eq_ok_iff {x : Bytes × Oid} : dumpBinary f items = .ok x ↔
    (items = [] ∧ x = (write .text [] [], .textArray)) ∨
    ∃ (dims : List Nat) (g : α → Bytes × Oid), 0 ∉ dims ∧ IsBox dims items ∧ Fits dims ∧
      (∀ a ∈ Element.valuesAll items, f a = .ok (g a) ∧ (g a).1.length < lengthLimit) ∧
      x = dumpedMessage dims ((Element.leavesAll items).map (Option.map g)) := by
  by_cases hne : items = []
  · subst hne
    constructor
    · intro h
      cases h
      exact .inl ⟨rfl, rfl⟩
    · rintro (⟨-, rfl⟩ | ⟨dims, dumped, hzero, hbox, -⟩)
      · rfl
      · cases dimensions_of_isBox hzero hbox
  constructor
  · intro h
    rw [dumpBinary_of_ne_nil hne] at h
    obtain ⟨dims, hdims, h⟩ := bind_eq_ok_iff.mp h
    obtain ⟨dumped, hdumped, h⟩ := bind_eq_ok_iff.mp h
    cases hfault : (flatten dims items).2 with
    | some fault =>
      rw [hfault] at h
      cases h
    | none =>
      rw [hfault] at h
      obtain ⟨hfits, rfl⟩ := checkedMessage_eq_ok_iff.mp h
      have hbox := isBox_of_flatten hfault
      rw [flatten_of_isBox hbox] at hdumped
      obtain ⟨g, hvalues, rfl⟩ := mapM_dumpLeaf_eq_ok_iff.mp hdumped
      have hzero := (zero_notMem_of_dimensions (ofExcept_mapError_eq_ok_iff.mp hdims)).2
      exact .inr ⟨dims, g, hzero, hbox, hfits,
        fun a ha => hvalues a (Element.mem_valuesAll_iff.mp ha), rfl⟩
  · rintro (⟨rfl, -⟩ | ⟨dims, g, hzero, hbox, hfits, hvalues, rfl⟩)
    · exact absurd rfl hne
    · rw [dumpBinary_of_isBox f hzero hbox]
      have hdumped := mapM_dumpLeaf_eq_ok_iff.mpr
        ⟨g, fun a ha => hvalues a (Element.mem_valuesAll_iff.mpr ha), rfl⟩
      exact bind_eq_ok_iff.mpr ⟨_, hdumped, checkedMessage_of_fits hfits _⟩

/-! ### What is refused -/

/-- Leaves that can be dumped are dumped. -/
theorem exists_mapM_dumpLeaf {leaves : List (Option α)}
    (h : ∀ a, some a ∈ leaves → ∃ x, f a = .ok x ∧ x.1.length < lengthLimit) :
    ∃ dumped, leaves.mapM (dumpLeaf f) = .ok dumped := by
  refine ⟨_, mapM_dumpLeaf_eq_ok_iff.mpr ⟨dumpedTo f, fun a ha => ?_, rfl⟩⟩
  obtain ⟨x, hx, hlength⟩ := h a ha
  rw [dumpedTo_eq hx]
  exact ⟨hx, hlength⟩

section Refused

variable (hvalues : ∀ a ∈ Element.valuesAll items, ∃ x, f a = .ok x ∧ x.1.length < lengthLimit)

include hvalues

/-- A box is dumped, or else its dimensions do not fit. -/
theorem exists_dumpBinary_of_isBox (hzero : 0 ∉ dims) (hbox : IsBox dims items) :
    ∃ dumped, dumpBinary f items = checkedMessage dims (dumpedMessage dims dumped) := by
  obtain ⟨dumped, hdumped⟩ := exists_mapM_dumpLeaf fun a ha =>
    hvalues a (Element.mem_valuesAll_iff.mpr ha)
  refine ⟨dumped, ?_⟩
  rw [dumpBinary_of_isBox f hzero hbox, hdumped]
  rfl

/-- **An array is refused for its shape** if its leaves are not at fault. -/
theorem dumpBinary_of_shape_eq_error (hne : items ≠ []) {fault : ShapeFault}
    (h : shape items = .error fault) : dumpBinary f items = .error (.data fault.message) := by
  rw [dumpBinary_of_ne_nil hne]
  rcases shape_eq_error_iff.mp h with hdims | ⟨dims, hdims, hfault⟩
  · rw [hdims]
    rfl
  · -- The leaves before the fault can be dumped, so it is the fault that is reported.
    obtain ⟨dumped, hdumped⟩ : ∃ dumped,
        (flatten dims items).1.mapM (dumpLeaf f) = .ok dumped :=
      exists_mapM_dumpLeaf fun a ha => hvalues a (mem_valuesAll_of_mem_flatten ha)
    rw [hdims]
    change ((flatten dims items).1.mapM (dumpLeaf f) >>= _) = _
    rw [hdumped, hfault]
    rfl

end Refused

/-! ### Arrays of values -/

/-- **The shape decides whether an array of values is dumped**, if each value can be dumped on its
own, to no more bytes than fit into a message. Boxes without empty arrays are dumped, unless a
dimension does not fit. Any other array is refused, and the error is the fault in its shape. The
case that no dimension is left for an array does not come up, whatever would be done then. -/
theorem dumpArray_binary_shape (s : Session) (ctx : Context) {items : PgArray} (hne : items ≠ [])
    (hvalues : ∀ v ∈ Element.valuesAll items, ∃ x,
      (ctx.dumpValue .binary v).result s = .ok x ∧ x.1.length < lengthLimit) :
    ((∃ x, (ctx.dumpArray .binary items).result s = .ok x) ↔
      ∃ dims, 0 ∉ dims ∧ IsBox dims items ∧ Fits dims) ∧
    ((¬∃ dims, 0 ∉ dims ∧ IsBox dims items) → ∃ fault, shape items = .error fault ∧
      (ctx.dumpArray .binary items).result s = .error (.data fault.message)) ∧
    (∀ dims, 0 ∉ dims → IsBox dims items → ¬Fits dims → ∃ what,
      (ctx.dumpArray .binary items).result s =
        .error (.data (what ++ " too large for a binary array"))) ∧
    ∀ dims, dimensions items = .ok dims →
      ∀ usedUp, flattenOr usedUp dims items = flatten dims items := by
  rw [World.result_dumpArray]
  refine ⟨⟨?_, ?_⟩, fun hbox => ?_, fun dims hzero hbox hfits => ?_, fun dims hdims usedUp => ?_⟩
  · rintro ⟨x, hx⟩
    rcases dumpBinary_eq_ok_iff.mp hx with ⟨rfl, -⟩ | ⟨dims, dumped, hzero, hbox, hfits, -⟩
    · exact absurd rfl hne
    · exact ⟨dims, hzero, hbox, hfits⟩
  · rintro ⟨dims, hzero, hbox, hfits⟩
    obtain ⟨dumped, hdumped⟩ := exists_dumpBinary_of_isBox hvalues hzero hbox
    exact ⟨_, hdumped.trans (checkedMessage_of_fits hfits _)⟩
  · cases hshape : shape items with
    | ok dims => exact absurd ⟨dims, shape_eq_ok_iff.mp hshape⟩ hbox
    | error fault => exact ⟨fault, rfl, dumpBinary_of_shape_eq_error hvalues hne hshape⟩
  · obtain ⟨dumped, hdumped⟩ := exists_dumpBinary_of_isBox hvalues hzero hbox
    obtain ⟨what, hwhat⟩ := checkedMessage_of_not_fits hfits (dumpedMessage dims dumped)
    exact ⟨what, hdumped.trans hwhat⟩
  · exact flattenOr_eq_flatten usedUp items (zero_notMem_of_dimensions hdims).1

/-- Rows of truth values, the second one too long. -/
def raggedTable : PgArray :=
  [.array [.value (.bool true)], .array [.value (.bool false), .null]]

theorem exists_dumpValue_of_mem_raggedTable {v : Value} (h : v ∈ Element.valuesAll raggedTable) :
    ∃ x, (Context.dumpValue {} .binary v).result truthSession = .ok x ∧
      x.1.length < lengthLimit := by
  have hvalues : Element.valuesAll raggedTable = [true, false].map .bool := rfl
  rw [hvalues] at h
  obtain ⟨b, -, rfl⟩ := List.mem_map.mp h
  refine ⟨truthByte (.bool b), ?_, ?_⟩
  · rw [World.result_dumpValue_scalar (by simp) rfl rfl]
    rfl
  · cases b <;> decide

/-- The ragged rows are refused. -/
theorem dumpArray_binary_shape_raggedTable :
    shape raggedTable = .error .lengths ∧
      (Context.dumpArray {} .binary raggedTable).result truthSession =
        .error (.data "nested lists have inconsistent lengths") := by
  have hne : raggedTable ≠ [] := List.cons_ne_nil _ _
  have hshape : shape raggedTable = .error .lengths := rfl
  have hbox : ¬∃ dims, 0 ∉ dims ∧ IsBox dims raggedTable := by
    rintro ⟨dims, h⟩
    rw [← shape_eq_ok_iff, hshape] at h
    cases h
  obtain ⟨fault, hfault, herror⟩ := (dumpArray_binary_shape truthSession {} hne
    fun v => exists_dumpValue_of_mem_raggedTable).2.1 hbox
  rw [hshape] at hfault
  cases hfault
  exact ⟨hshape, herror⟩

end PgAdapt
