import PgAdapt.Proofs.ArrayBinary.ElementType
import PgAdapt.Proofs.ArrayBinary.Load

/-!
# The type of an array does not depend on the format

The dumpers of arrays give the type of the array along with its bytes. Each of the two works it out
in its own way: from the first token, with nothing to go by if there is none, or from the type in
the header, which is text if there is none. And the values may be announced as something else in
each format, since the type of a text is left open in one of them, unless the server is too old.

Where the built-in catalogues are registered, all of this comes to the same
(`PgAdapt.dumpArray_type_eq`): the type is that of the arrays over the type of the first value,
`PgAdapt.ValueType.arrayType`, and of arrays of text where there is no such type or no value.
-/

namespace PgAdapt

open ArrayBinary

/-! ### The type of the first value -/

/-- The **type of the arrays over values of a type**: the built-in type of arrays over the type of
the server that the values have, if there is one, or else arrays of text. -/
def ValueType.arrayType (t : ValueType) : Oid := t.wireType.arrayType?.getD .textArray

/-- The types of values that the built-in catalogues know: those that are dumped in binary form, and
the marker for `NULL`, which has a literal but no bytes. -/
def builtinTypes : List ValueType := .null :: binaryTypes

/-- **The type of an array comes from its first value**, dumped on its own. -/
theorem exists_of_dumpArray {s : Session} {ctx : Context} {format : Format} {items : PgArray}
    {x : Bytes × Oid} (h : (ctx.dumpArray format items).result s = .ok x) :
    ∃ dumped : Value → Bytes × Oid,
      (∀ v ∈ Element.valuesAll items, (ctx.dumpValue format v).result s = .ok (dumped v)) ∧
      x.2 = ((Element.valuesAll items).head?.map fun v =>
        arrayTypeOver (some (dumped v).2)).getD .textArray := by
  rw [World.result_dumpArray] at h
  cases format with
  | text =>
    obtain ⟨tokens, htokens, h⟩ := bind_eq_ok_iff.mp h
    obtain ⟨dumped, hvalues, rfl⟩ := Element.traverseAll_eq_ok_iff.mp htokens
    obtain rfl := Except.ok.inj h
    refine ⟨dumped, hvalues, ?_⟩
    rw [Element.valuesAll_mapAll]
    rcases Element.valuesAll items with _ | ⟨v, rest⟩ <;> rfl
  | binary =>
    rcases dumpBinary_eq_ok_iff.mp h with ⟨rfl, rfl⟩ | ⟨dims, dumped, -, -, -, hvalues, rfl⟩
    · exact ⟨fun _ => default, by simp, rfl⟩
    · refine ⟨dumped, fun v hv => (hvalues v hv).1, ?_⟩
      rw [dumpedMessage, elementTypeOf_leavesAll]
      rcases Element.valuesAll items with _ | ⟨v, rest⟩ <;> rfl

/-! ### What is announced for it -/

section Announced

variable {s : Session} {ctx : Context} (h : (s.registries ctx.registry).HasDumpers) {v : Value}
  {x : Bytes × Oid}

include h

/-- **Whatever is announced for a value, arrays over it have the same type.** -/
theorem arrayTypeOver_of_dumpValue {format : Format} (hv : v.type ∈ binaryTypes)
    (hdump : (ctx.dumpValue format v).result s = .ok x) :
    arrayTypeOver (some x.2) = v.type.arrayType := by
  obtain ⟨recipe, hrecipe, hannounced⟩ := exists_recipe_of_dumpValue hdump
  rw [hannounced]
  rcases List.mem_cons.mp hv with harray | hv
  · rw [harray, h.array] at hrecipe
    rw [← Option.some.inj hrecipe, harray]
    rfl
  · obtain ⟨c, hcarries⟩ := h.carries
    obtain ⟨dumper, hdumper, hoid⟩ := exists_dumper_oid c hv format
    rw [hcarries.dumper hdumper] at hrecipe
    rw [← Option.some.inj hrecipe, DumperRecipe.announced, ValueType.arrayType]
    rcases hoid with ⟨hoid, hopen⟩ | ⟨-, hoid, hwire⟩
    · rw [Scope.announced_of_isUnspecified_false _ hopen, hoid]
      rfl
    · -- There are no arrays over a type left open, so it counts as text like text itself.
      rw [hoid, hwire]
      rcases (s.scope ctx).announced_eq_or_eq_text .unspecified with hopen | htext
      · rw [hopen]
        rfl
      · rw [htext]
        rfl

/-- The marker for `NULL` has no text. -/
theorem type_ne_null_of_dumpValue (hdump : (ctx.dumpValue .text v).result s = .ok x) :
    v.type ≠ .null := by
  intro hnull
  obtain ⟨c, hcarries⟩ := h.carries
  have hdumper : c.recipes.dumper v.type .text = some (.scalar (Singleton.nullDumper c)) := by
    rw [hnull]
    cases c <;> rfl
  rw [result_dumpValue_of_carries hcarries hdumper] at hdump
  cases hdump

end Announced

/-! ### Arrays -/

/-- **Text and binary form give an array the same type.** Let an array of built-in values be dumped
to text and to binary form, in contexts whose registries have the built-in dumpers, whatever the
versions of their servers and from which version on a type may be left open. Then the types are the
same, and it is the type of the arrays over the first value, in the order of the leaves. So it is
arrays of text if that is a text or itself an array, or if there is no value, be it that all leaves
are `NULL` or that there are none. -/
theorem dumpArray_type_eq {s s' : Session} {ctx ctx' : Context}
    (h : (s.registries ctx.registry).HasDumpers) (h' : (s'.registries ctx'.registry).HasDumpers)
    {items : PgArray} (hitems : ∀ v ∈ Element.valuesAll items, v.type ∈ builtinTypes)
    {text binary : Bytes} {type type' : Oid}
    (htext : (ctx.dumpArray .text items).result s = .ok (text, type))
    (hbinary : (ctx'.dumpArray .binary items).result s' = .ok (binary, type')) :
    type = type' ∧
    type = ((Element.valuesAll items).head?.map fun v => v.type.arrayType).getD .textArray ∧
    ((∀ v ∈ (Element.valuesAll items).head?, v.type ∈ [.text, .staticText, .array]) →
      type = .textArray) := by
  obtain ⟨dumped, hdumped, rfl⟩ := exists_of_dumpArray htext
  obtain ⟨dumped', hdumped', rfl⟩ := exists_of_dumpArray hbinary
  generalize Element.valuesAll items = values at hitems hdumped hdumped' ⊢
  rcases values with _ | ⟨first, rest⟩
  · exact ⟨rfl, rfl, fun _ => rfl⟩
  have hfirst : first ∈ first :: rest := List.mem_cons_self
  have htype : first.type ∈ binaryTypes := by
    refine (List.mem_cons.mp (hitems first hfirst)).resolve_left ?_
    exact type_ne_null_of_dumpValue h (hdumped first hfirst)
  have hover := arrayTypeOver_of_dumpValue h htype (hdumped first hfirst)
  have hover' := arrayTypeOver_of_dumpValue h' htype (hdumped' first hfirst)
  simp only [List.head?_cons, Option.map_some, Option.getD_some, Option.mem_def,
    Option.some.injEq, forall_eq', hover, hover', true_and]
  intro hmem
  have hall : ∀ t ∈ [ValueType.text, .staticText, .array], t.arrayType = .textArray := by decide
  exact hall _ hmem

/-! ### Values of several types -/

/-- Two rows of numbers and a truth value, and a `NULL` before all of them. -/
def mixedTable : PgArray :=
  [.array [.null, .value (.int .int16 1)], .array [.value (.bool true), .value (.int .int32 2)]]

theorem eq_of_mem_mixedTable {v : Value} (h : v ∈ Element.valuesAll mixedTable) :
    v = .int .int16 1 ∨ v = .bool true ∨ v = .int .int32 2 := by
  simpa [mixedTable] using h

section Mixed

variable {s : Session} {ctx : Context} {c : Catalogue}
  (h : (s.registries ctx.registry).Carries c)

include h

theorem exists_dumpArray_text_mixedTable :
    ∃ x, (ctx.dumpArray .text mixedTable).result s = .ok x := by
  have hvalues : ∀ v ∈ Element.valuesAll mixedTable,
      ∃ x, (ctx.dumpValue .text v).result s = .ok x := by
    intro v hv
    have htype : v.type ∈ returnedTypes .text := by
      rcases eq_of_mem_mixedTable hv with rfl | rfl | rfl <;> decide
    have hzero : ¬v.HoldsZero := by
      rcases eq_of_mem_mixedTable hv with rfl | rfl | rfl <;> exact nofun
    obtain ⟨announced, hreturns⟩ := c.exists_returns c htype hzero
    obtain ⟨bytes, hdump, -⟩ := exists_dumpValue_eq_ok h h hreturns
    exact ⟨_, hdump⟩
  obtain ⟨tokens, htokens⟩ := Element.exists_traverseAll_eq_ok_iff.mpr hvalues
  rw [World.result_dumpArray]
  exact ⟨_, bind_eq_ok_iff.mpr ⟨tokens, htokens, rfl⟩⟩

theorem exists_dumpArray_binary_mixedTable :
    ∃ x, (ctx.dumpArray .binary mixedTable).result s = .ok x := by
  have hshape : IsBoxOrEmpty [2, 2] mixedTable := by
    simp [IsBoxOrEmpty, IsBox, mixedTable, Element.array?]
  refine World.exists_dumpArray_eq_ok hshape (by simp [Fits, lengthLimit]) fun v hv => ?_
  rcases eq_of_mem_mixedTable hv with rfl | rfl | rfl
  · exact ⟨_, result_dumpValue_int h (by decide) _, by decide⟩
  · have hdumper : c.recipes.dumper (Value.bool true).type .binary =
        some (.scalar (Singleton.boolBinaryDumper c)) := by
      cases c <;> rfl
    have hdump := result_dumpValue_of_carries h hdumper
    rw [Singleton.boolBinaryDumper_dump_eq] at hdump
    exact ⟨_, hdump, by simp [lengthLimit]⟩
  · exact ⟨_, result_dumpValue_int h (by decide) _, by decide⟩

end Mixed

/-- Rows that start with a number of two bytes are an array of such numbers in either format. -/
theorem dumpArray_type_eq_mixedTable :
    let ctx : Context := {}
    ∃ text binary,
      (ctx.dumpArray .text mixedTable).result ctx.builtinSession = .ok (text, ⟨1005⟩) ∧
      (ctx.dumpArray .binary mixedTable).result ctx.builtinSession = .ok (binary, ⟨1005⟩) := by
  intro ctx
  have hdumpers := ctx.hasDumpers_builtinSession
  have hitems : ∀ v ∈ Element.valuesAll mixedTable, v.type ∈ builtinTypes := by
    intro v hv
    rcases eq_of_mem_mixedTable hv with rfl | rfl | rfl <;> decide
  obtain ⟨c, hcarries⟩ := hdumpers.carries
  obtain ⟨⟨text, type⟩, htext⟩ := exists_dumpArray_text_mixedTable hcarries
  obtain ⟨⟨binary, type'⟩, hbinary⟩ := exists_dumpArray_binary_mixedTable hcarries
  obtain ⟨rfl, htype, -⟩ := dumpArray_type_eq hdumpers hdumpers hitems htext hbinary
  obtain rfl : type = ⟨1005⟩ := htype.trans (by decide)
  exact ⟨text, binary, htext, hbinary⟩

end PgAdapt
