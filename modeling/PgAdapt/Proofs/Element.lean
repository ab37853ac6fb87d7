import Mathlib.Logic.Basic
import PgAdapt.Proofs.Except
import PgAdapt.Value

/-!
# Values within arrays

Small facts on `PgAdapt.Element.valuesAll` and `PgAdapt.Element.mapAll`, and what becomes of
`PgAdapt.Element.traverseAll` where the only effect is an error:
`PgAdapt.Element.traverseAll_eq_ok` if there is none, `PgAdapt.Element.traverseAll_eq_ok_iff` in
general, and `PgAdapt.Element.traverseAll_eq_error_iff` for the error. The arrays within an array
are counted by their lengths, `PgAdapt.Element.lengths`.
-/

namespace PgAdapt

namespace Element

variable {α β γ : Type}

/-! ### Values -/

@[simp]
theorem valuesAll_nil : valuesAll ([] : List (Element α)) = [] := rfl

theorem valuesAll_cons (item : Element α) (items : List (Element α)) :
    valuesAll (item :: items) = valuesAll [item] ++ valuesAll items := by
  simp [valuesAll, leavesAll]

@[simp]
theorem valuesAll_null_cons (items : List (Element α)) :
    valuesAll (.null :: items) = valuesAll items := by
  simp [valuesAll, leavesAll, leaves]

@[simp]
theorem valuesAll_value_cons (a : α) (items : List (Element α)) :
    valuesAll (.value a :: items) = a :: valuesAll items := by
  simp [valuesAll, leavesAll, leaves]

@[simp]
theorem valuesAll_array_cons (inner items : List (Element α)) :
    valuesAll (.array inner :: items) = valuesAll inner ++ valuesAll items := by
  simp [valuesAll, leavesAll, leaves]

/-- The values are the leaves that are not `NULL`. -/
theorem mem_valuesAll_iff {a : α} {items : List (Element α)} :
    a ∈ valuesAll items ↔ some a ∈ leavesAll items := by
  simp [valuesAll]

/-- What is no array is a leaf. -/
theorem eq_null_or_value {item : Element α} (h : item.array? = none) :
    item = .null ∨ ∃ a, item = .value a := by
  cases item with
  | null => exact .inl rfl
  | value a => exact .inr ⟨a, rfl⟩
  | array items => cases h

/-- Replacing the values replaces them one by one. -/
@[simp]
theorem valuesAll_mapAll (f : α → β) (items : List (Element α)) :
    valuesAll (mapAll f items) = (valuesAll items).map f := by
  rw [valuesAll, leavesAll_mapAll, valuesAll, List.filterMap_map, List.map_filterMap]
  rfl

/-! ### Replacing the values -/

mutual

theorem map_map (f : α → β) (g : β → γ) :
    ∀ item : Element α, (item.map f).map g = item.map (g ∘ f)
  | .null | .value _ => by simp [map]
  | .array items => by simp [map, mapAll_mapAll f g items]

/-- Values that are replaced twice are replaced once. -/
theorem mapAll_mapAll (f : α → β) (g : β → γ) :
    ∀ items : List (Element α), mapAll g (mapAll f items) = mapAll (g ∘ f) items
  | [] => rfl
  | item :: items => by simp [mapAll, map_map f g item, mapAll_mapAll f g items]

end

/-- An array whose values all stay stays. -/
theorem mapAll_eq_self {f : α → α} : ∀ items : List (Element α),
    (∀ a ∈ valuesAll items, f a = a) → mapAll f items = items
  | [], _ => rfl
  | .null :: items, h => by
    simp only [mapAll, map]
    rw [mapAll_eq_self items (by simpa using h)]
  | .value a :: items, h => by
    simp only [valuesAll_value_cons, List.forall_mem_cons] at h
    simp only [mapAll, map]
    rw [h.1, mapAll_eq_self items h.2]
  | .array inner :: items, h => by
    simp only [valuesAll_array_cons, List.forall_mem_append] at h
    simp only [mapAll, map]
    rw [mapAll_eq_self inner h.1, mapAll_eq_self items h.2]

/-- Going through an array whose values have been replaced is going through the array. -/
theorem traverseAll_mapAll {m : Type → Type} [Monad m] (g : α → β) (f : β → m γ) :
    ∀ items : List (Element α),
      traverseAll f (mapAll g items) = traverseAll (fun a => f (g a)) items
  | [] => rfl
  | .null :: items => by
    rw [mapAll, map, traverseAll, traverseAll, traverse, traverse, traverseAll_mapAll g f items]
  | .value a :: items => by
    rw [mapAll, map, traverseAll, traverseAll, traverse, traverse, traverseAll_mapAll g f items]
  | .array inner :: items => by
    rw [mapAll, map, traverseAll, traverseAll, traverse, traverse, traverseAll_mapAll g f inner,
      traverseAll_mapAll g f items]

/-- Only what becomes of the values matters. -/
theorem traverseAll_congr {m : Type → Type} [Monad m] {f g : α → m β} :
    ∀ items : List (Element α), (∀ a ∈ valuesAll items, f a = g a) →
      traverseAll f items = traverseAll g items
  | [], _ => rfl
  | .null :: items, h => by
    rw [traverseAll, traverseAll, traverse, traverse, traverseAll_congr items (by simpa using h)]
  | .value a :: items, h => by
    simp only [valuesAll_value_cons, List.forall_mem_cons] at h
    rw [traverseAll, traverseAll, traverse, traverse, h.1, traverseAll_congr items h.2]
  | .array inner :: items, h => by
    simp only [valuesAll_array_cons, List.forall_mem_append] at h
    rw [traverseAll, traverseAll, traverse, traverse, traverseAll_congr inner h.1,
      traverseAll_congr items h.2]

/-! ### Lengths -/

mutual

/-- The **lengths** of the arrays in an element, in the order in which the arrays end. -/
def lengths : Element α → List Nat
  | .null | .value _ => []
  | .array items => lengthsAll items ++ [items.length]

/-- The lengths of the arrays within an array, in the order in which the arrays end. -/
def lengthsAll : List (Element α) → List Nat
  | [] => []
  | item :: items => lengths item ++ lengthsAll items

end

/-- The **number of arrays** that an array consists of, itself and all arrays within. Arrays that
are values are not among them. -/
def countArrays (items : List (Element α)) : Nat := (lengths (.array items)).length

theorem countArrays_eq (items : List (Element α)) :
    countArrays items = (lengthsAll items).length + 1 := by
  rw [countArrays, lengths, List.length_append, List.length_singleton]

theorem lengthsAll_append (items items' : List (Element α)) :
    lengthsAll (items ++ items') = lengthsAll items ++ lengthsAll items' := by
  induction items with
  | nil => rfl
  | cons item items ih => rw [List.cons_append, lengthsAll, lengthsAll, ih, List.append_assoc]

theorem lengthsAll_singleton (item : Element α) : lengthsAll [item] = item.lengths := by
  rw [lengthsAll, lengthsAll, List.append_nil]

/-! ### Errors -/

section Except

variable {ε : Type} {f : α → Except ε β}

/-- An array whose values can all be replaced is replaced as a whole. -/
theorem traverseAll_eq_ok {g : α → β} : ∀ items : List (Element α),
    (∀ a ∈ valuesAll items, f a = .ok (g a)) → traverseAll f items = .ok (mapAll g items)
  | [], _ => rfl
  | .null :: items, h => by
    rw [traverseAll, traverse, traverseAll_eq_ok items (by simpa using h)]
    rfl
  | .value a :: items, h => by
    simp only [valuesAll_value_cons, List.forall_mem_cons] at h
    rw [traverseAll, traverse, h.1, traverseAll_eq_ok items h.2]
    rfl
  | .array inner :: items, h => by
    simp only [valuesAll_array_cons, List.forall_mem_append] at h
    rw [traverseAll, traverse, traverseAll_eq_ok inner h.1, traverseAll_eq_ok items h.2]
    rfl

theorem traverseAll_cons_eq_error_iff {e : ε} {item : Element α} {items : List (Element α)} :
    traverseAll f (item :: items) = .error e ↔ traverse f item = .error e ∨
      (∃ x, traverse f item = .ok x) ∧ traverseAll f items = .error e := by
  rw [traverseAll, bind_eq_error_iff, ← exists_and_right]
  refine or_congr_right (exists_congr fun x => and_congr_right fun _ => ?_)
  exact bind_eq_error_iff_of_ok fun rest _ => ⟨x :: rest, rfl⟩

/-- **An array is replaced up to the first error**, which is that of the first value that fails. -/
theorem traverseAll_eq_error_iff {e : ε} : ∀ {items : List (Element α)},
    traverseAll f items = .error e ↔ FailsFirst f (valuesAll items) e
  | [] => iff_of_false nofun not_failsFirst_nil
  | .null :: items => by
    rw [traverseAll_cons_eq_error_iff, valuesAll_null_cons, ← traverseAll_eq_error_iff, traverse]
    simp [pure, Except.pure]
  | .value a :: items => by
    rw [traverseAll_cons_eq_error_iff, valuesAll_value_cons, failsFirst_cons_iff,
      ← traverseAll_eq_error_iff, traverse]
    rcases f a with e' | b <;> simp [bind, Except.bind, pure, Except.pure]
  | .array inner :: items => by
    have hinner : (∃ x, traverseAll f inner = .ok x) ↔ ∀ a ∈ valuesAll inner, ∃ b, f a = .ok b :=
      exists_eq_ok_iff_of_failsFirst fun _ => traverseAll_eq_error_iff
    rw [traverseAll_cons_eq_error_iff, valuesAll_array_cons, failsFirst_append_iff, ← hinner,
      ← traverseAll_eq_error_iff, ← traverseAll_eq_error_iff, traverse]
    rcases traverseAll f inner with e' | b <;> simp [bind, Except.bind, pure, Except.pure]

/-- An array is replaced if each of its values can be replaced. -/
theorem exists_traverseAll_eq_ok_iff {items : List (Element α)} :
    (∃ array, traverseAll f items = .ok array) ↔ ∀ a ∈ valuesAll items, ∃ b, f a = .ok b :=
  exists_eq_ok_iff_of_failsFirst fun _ => traverseAll_eq_error_iff

/-- **Where only an error can happen**, an array is replaced exactly if all of its values are. -/
theorem traverseAll_eq_ok_iff [Inhabited β] {items : List (Element α)}
    {array : List (Element β)} : traverseAll f items = .ok array ↔
      ∃ g : α → β, (∀ a ∈ valuesAll items, f a = .ok (g a)) ∧ array = mapAll g items := by
  constructor
  · intro h
    have hvalues := exists_traverseAll_eq_ok_iff.mp ⟨array, h⟩
    have hg : ∀ a ∈ valuesAll items, f a = .ok ((f a).toOption.getD default) := by
      intro a ha
      obtain ⟨b, hb⟩ := hvalues a ha
      rw [hb]
      rfl
    -- The values are those that `hg` chooses, since `f` gives one thing only.
    refine ⟨_, hg, ?_⟩
    rw [traverseAll_eq_ok items hg] at h
    exact (Except.ok.inj h).symm
  · rintro ⟨g, hg, rfl⟩
    exact traverseAll_eq_ok items hg

end Except

end Element

end PgAdapt
