import PgAdapt.Proofs.ArrayBinary.Dumped
import PgAdapt.Proofs.Catalogue.Builtin
import PgAdapt.Proofs.RoundTrip.Scalar

/-!
# The type in the header

The header of a binary array has room for one type, and the writer takes the type that is announced
for the first value. Each value, though, is dumped by the dumper for its own type. Where the
built-in catalogues are registered, what is announced for a value can be told from its type
(`PgAdapt.ValueType.wireType`), so the elements have the type in the header exactly if they all have
one and the same type: `PgAdapt.dumpArray_binary_elementType`. The writer does not see to it.
-/

namespace PgAdapt

open ArrayBinary

/-! ### Announced types -/

/-- The type of the server that values of a type are dumped to in binary form. -/
def ValueType.wireType : ValueType → Oid
  | .bool => .bool
  | .int t => t.oid
  | .float t => t.oid
  | .text | .staticText => .text
  | .blob | .sharedBlob => .bytea
  | .null => .unspecified
  | .array => .textArray

/-- The types of values that are dumped in binary form. -/
def binaryTypes : List ValueType := .array :: returnedTypes .binary

/-- A dumper of a catalogue announces the type of its values, or in text leaves it open if that is
text. -/
theorem exists_dumper_oid (c : Catalogue) {source : ValueType}
    (h : source ∈ returnedTypes .binary) (format : Format) : ∃ dumper : ScalarDumper,
      c.recipes.dumper source format = some (.scalar dumper) ∧
        (dumper.oid = source.wireType ∧ dumper.oid.isUnspecified = false ∨
          format = .text ∧ dumper.oid = .unspecified ∧ source.wireType = .text) := by
  simp only [returnedTypes, plainTypes, Catalogue.dumpedInts, List.map_cons, List.map_nil,
    List.cons_append, List.nil_append, List.mem_cons, List.not_mem_nil, or_false] at h
  rcases h with rfl | rfl | rfl | rfl | rfl | rfl | rfl | rfl | rfl | rfl <;> cases c <;>
    cases format <;> exact ⟨_, rfl, by decide⟩

/-- A registry **has the built-in catalogues**: it carries one of them, which may hide the other,
and the dumper of binary arrays. -/
structure Registry.HasBuiltin (registry : Registry) : Prop where
  carries : ∃ c, registry.Carries c
  array : registry.recipes.dumper .array .binary = some (.array .binary)

/-- A registry **has the built-in dumpers**: it carries one of the catalogues, which may hide the
other, and the dumpers of arrays in both formats. -/
structure Registry.HasDumpers (registry : Registry) : Prop where
  carries : ∃ c, registry.Carries c
  array (format : Format) : registry.recipes.dumper .array format = some (.array format)

theorem Registry.HasDumpers.hasBuiltin {registry : Registry} (h : registry.HasDumpers) :
    registry.HasBuiltin := ⟨h.carries, h.array .binary⟩

theorem Registry.recipes_dumper_of_inForce {registry : Registry} {source : ValueType}
    {format : Format} {name : String} {recipe : DumperRecipe}
    (h : registry.inForce (.dumper source format) = some (.dumper source format name recipe)) :
    registry.recipes.dumper source format = some recipe := by
  obtain ⟨factory, hfactory, hr⟩ := Option.map_eq_some_iff.mp h
  cases hr
  exact Option.map_eq_some_iff.mpr ⟨factory, hfactory, rfl⟩

/-- The reference catalogue with its arrays is built in, and so is the optimized one over it. -/
theorem hasDumpers_installBuiltin (id : RegistryId) (s : Session) :
    (((Action.installBuiltin id .reference).after s).registries id).HasDumpers ∧
      (((Action.installBuiltin id .optimized).after
        ((Action.installBuiltin id .reference).after s)).registries id).HasDumpers := by
  have hcarries (c : Catalogue) (s : Session) := (@Action.carries_installBuiltin id c s).2
  have hreference (format : Format) := (@Action.carriesOut_installBuiltin id .reference s).inForce_eq
    (.dumper .array format)
  have hoptimized (format : Format) := (@Action.carriesOut_installBuiltin id .optimized
    ((Action.installBuiltin id .reference).after s)).inForce_eq (.dumper .array format)
  simp only [Catalogue.last?_builtinRegistrations_array, if_pos, Option.some_or] at hreference
  -- The optimized catalogue has no dumpers of arrays, so those of the reference catalogue stay.
  simp only [Catalogue.last?_builtinRegistrations_array, reduceCtorEq, if_false, Option.none_or,
    hreference] at hoptimized
  exact ⟨⟨⟨.reference, hcarries .reference s⟩,
      fun format => Registry.recipes_dumper_of_inForce (hreference format)⟩,
    ⟨⟨.optimized, hcarries .optimized _⟩,
      fun format => Registry.recipes_dumper_of_inForce (hoptimized format)⟩⟩

/-- **A value that is dumped is dumped as a recipe of the registry says**, and the recipe says what
is announced. -/
theorem exists_recipe_of_dumpValue {s : Session} {ctx : Context} {format : Format} {v : Value}
    {x : Bytes × Oid} (h : (ctx.dumpValue format v).result s = .ok x) :
    ∃ recipe, (s.registries ctx.registry).recipes.dumper v.type format = some recipe ∧
      x.2 = recipe.announced (s.scope ctx) := by
  obtain ⟨factory, hfactory, hannounced⟩ := World.exists_factory_of_dumpValue h
  exact ⟨factory.recipe, Option.map_eq_some_iff.mpr ⟨factory, hfactory, rfl⟩, hannounced⟩

/-- **What is announced for a value** can be told from its type. -/
theorem wireType_of_dumpValue {s : Session} {ctx : Context}
    (h : (s.registries ctx.registry).HasBuiltin) {v : Value} (hv : v.type ∈ binaryTypes)
    {x : Bytes × Oid} (hdump : (ctx.dumpValue .binary v).result s = .ok x) :
    x.2 = v.type.wireType := by
  obtain ⟨recipe, hrecipe, hannounced⟩ := exists_recipe_of_dumpValue hdump
  rw [hannounced]
  rcases List.mem_cons.mp hv with harray | hv
  · rw [harray, h.array] at hrecipe
    rw [← Option.some.inj hrecipe, harray]
    rfl
  · obtain ⟨c, hcarries⟩ := h.carries
    obtain ⟨dumper, hdumper, ⟨hoid, hopen⟩ | ⟨hformat, -⟩⟩ := exists_dumper_oid c hv .binary
    · rw [hcarries.dumper hdumper] at hrecipe
      rw [← Option.some.inj hrecipe, ← hoid]
      exact Scope.announced_of_isUnspecified_false _ hopen
    · cases hformat

/-! ### Elements -/

/-- **An array is dumped value by value**, under the type that is announced for the first one. -/
theorem exists_of_dumpArray_binary {s : Session} {ctx : Context} {items : PgArray}
    {x : Bytes × Oid} (h : (ctx.dumpArray .binary items).result s = .ok x) :
    ∃ (dims : List Nat) (dumped : Value → Bytes × Oid),
      (∀ v ∈ Element.valuesAll items, (ctx.dumpValue .binary v).result s = .ok (dumped v)) ∧
      x.1 = write (((Element.valuesAll items).head?.map fun v => (dumped v).2).getD .text) dims
        ((Element.leavesAll items).map (Option.map fun v => (dumped v).1)) := by
  rw [World.result_dumpArray] at h
  rcases dumpBinary_eq_ok_iff.mp h with ⟨rfl, rfl⟩ | ⟨dims, dumped, -, -, -, hvalues, rfl⟩
  · exact ⟨[], fun _ => default, by simp, rfl⟩
  · refine ⟨dims, dumped, fun v hv => (hvalues v hv).1, ?_⟩
    rw [dumpedMessage, elementTypeOf_leavesAll, List.map_map, Option.map_comp_map]
    rfl

/-- **The type in the header is the type of the first value.** Let an array of values be dumped to a
binary array, in a context whose registry has the built-in catalogues. The header has the type of
the first value, or text if there is none; and each value is dumped by a dumper for its own type. So
all elements have the type in the header if and only if the values all have one type. Otherwise the
array is dumped all the same. -/
theorem dumpArray_binary_elementType {s : Session} {ctx : Context}
    (h : (s.registries ctx.registry).HasBuiltin) {items : PgArray}
    (hitems : ∀ v ∈ Element.valuesAll items, v.type ∈ binaryTypes) {message : Bytes} {type : Oid}
    (hdump : (ctx.dumpArray .binary items).result s = .ok (message, type)) :
    ∃ (element : Oid) (dims : List Nat) (bytes : Value → Bytes),
      message = write element dims ((Element.leavesAll items).map (Option.map bytes)) ∧
      (∀ v ∈ Element.valuesAll items,
        (ctx.dumpValue .binary v).result s = .ok (bytes v, v.type.wireType)) ∧
      element = ((Element.valuesAll items).head?.map fun v => v.type.wireType).getD .text ∧
      ((∀ v ∈ Element.valuesAll items, v.type.wireType = element) ↔
        ∀ v ∈ Element.valuesAll items, ∀ v' ∈ Element.valuesAll items,
          v.type.wireType = v'.type.wireType) := by
  obtain ⟨dims, dumped, hvalues, hmessage⟩ := exists_of_dumpArray_binary hdump
  have htype (v : Value) (hv : v ∈ Element.valuesAll items) : (dumped v).2 = v.type.wireType :=
    wireType_of_dumpValue h (hitems v hv) (hvalues v hv)
  refine ⟨_, dims, fun v => (dumped v).1, hmessage, fun v hv => ?_, ?_, ?_⟩
  · rw [hvalues v hv, ← htype v hv]
  · cases hall : Element.valuesAll items with
    | nil => rfl
    | cons v rest => exact htype v (hall ▸ List.mem_cons_self)
  · cases hall : Element.valuesAll items with
    | nil => simp
    | cons first rest =>
      have hfirst : (dumped first).2 = first.type.wireType :=
        htype first (hall ▸ List.mem_cons_self)
      rw [List.head?_cons, Option.map_some, Option.getD_some, hfirst]
      exact ⟨fun hsame v hv v' hv' => (hsame v hv).trans (hsame v' hv').symm,
        fun hsame v hv => hsame v hv first List.mem_cons_self⟩

/-! ### Numbers of two sizes -/

section Sizes

/-- What a whole number is dumped to. -/
def sizedBytes : Value → Bytes × Oid
  | .int t word => (Bytes.ofWord word, t.oid)
  | _ => default

/-- A number of two bytes and one of four. -/
def twoSizes : PgArray := [.value (.int .int16 1), .value (.int .int32 2)]

theorem exists_int_of_mem_twoSizes {v : Value} (h : v ∈ Element.valuesAll twoSizes) :
    ∃ t ∈ Catalogue.dumpedInts, ∃ word : t.Word, v = .int t word := by
  have hvalues : Element.valuesAll twoSizes = [.int .int16 1, .int .int32 2] := rfl
  rw [hvalues, List.mem_cons, List.mem_singleton] at h
  rcases h with rfl | rfl
  · exact ⟨.int16, by decide, _, rfl⟩
  · exact ⟨.int32, by decide, _, rfl⟩

variable {s : Session} {ctx : Context} {c : Catalogue}
  (h : (s.registries ctx.registry).Carries c)

include h

theorem result_dumpValue_int {t : IntType} (ht : t ∈ Catalogue.dumpedInts) (word : t.Word) :
    (ctx.dumpValue .binary (.int t word)).result s = .ok (sizedBytes (.int t word)) := by
  have hcases : t = .int16 ∨ t = .int32 ∨ t = .int64 := by
    simpa [Catalogue.dumpedInts] using ht
  have hdumper : c.recipes.dumper (Value.int t word).type .binary =
      some (.scalar (t.binaryDumper c)) := by
    rcases hcases with rfl | rfl | rfl <;> cases c <;> rfl
  have hopen : t.oid.isUnspecified = false := by
    rcases hcases with rfl | rfl | rfl <;> rfl
  rw [result_dumpValue_of_carries h hdumper, t.binaryDumper_dump_eq]
  exact congrArg (fun oid => Except.ok (Bytes.ofWord word, oid))
    (Scope.announced_of_isUnspecified_false _ hopen)

theorem result_dumpArray_twoSizes : (ctx.dumpArray .binary twoSizes).result s =
    .ok (write .int2 [2] [some [0, 1], some [0, 0, 0, 2]], ⟨1005⟩) := by
  rw [World.result_dumpArray]
  refine dumpBinary_eq_ok_iff.mpr (.inr ⟨[2], sizedBytes, by simp, ?_, ?_, fun v hv => ?_, ?_⟩)
  · simp [IsBox, twoSizes, Element.array?]
  · simp [Fits, lengthLimit]
  · obtain ⟨t, ht, word, rfl⟩ := exists_int_of_mem_twoSizes hv
    refine ⟨result_dumpValue_int h ht word, ?_⟩
    rw [sizedBytes, Bytes.ofWord, Bytes.length_ofNat]
    cases t <;> decide
  · rfl

end Sizes

/-- A session in which both catalogues have been registered for a context. -/
def Context.builtinSession (ctx : Context) : Session :=
  (Action.installBuiltin ctx.registry .optimized).after
    ((Action.installBuiltin ctx.registry .reference).after default)

theorem Context.hasDumpers_builtinSession (ctx : Context) :
    (ctx.builtinSession.registries ctx.registry).HasDumpers := by
  unfold builtinSession
  exact (hasDumpers_installBuiltin ctx.registry default).2

theorem Context.hasBuiltin_builtinSession (ctx : Context) :
    (ctx.builtinSession.registries ctx.registry).HasBuiltin :=
  ctx.hasDumpers_builtinSession.hasBuiltin

theorem type_mem_binaryTypes_of_mem_twoSizes {v : Value} (hv : v ∈ Element.valuesAll twoSizes) :
    v.type ∈ binaryTypes := by
  have hall : ∀ t ∈ Catalogue.dumpedInts, ValueType.int t ∈ binaryTypes := by decide
  obtain ⟨t, ht, word, rfl⟩ := exists_int_of_mem_twoSizes hv
  exact hall t ht

/-- The header for numbers of two sizes has the type of the first one, and not all have it. -/
theorem dumpArray_binary_elementType_twoSizes :
    let ctx : Context := {}
    ∃ message type, (ctx.dumpArray .binary twoSizes).result ctx.builtinSession =
        .ok (message, type) ∧
      (∃ dims leaves, message = write .int2 dims leaves) ∧
      ¬∀ v ∈ Element.valuesAll twoSizes, v.type.wireType = .int2 := by
  intro ctx
  obtain ⟨c, hcarries⟩ := ctx.hasBuiltin_builtinSession.carries
  obtain ⟨element, dims, bytes, hmessage, -, rfl, hsame⟩ := dumpArray_binary_elementType
    ctx.hasBuiltin_builtinSession (fun v => type_mem_binaryTypes_of_mem_twoSizes)
    (result_dumpArray_twoSizes hcarries)
  refine ⟨_, _, result_dumpArray_twoSizes hcarries, ⟨dims, _, hmessage⟩, fun hall => ?_⟩
  have hne := hsame.mp hall (.int .int16 1) (by simp [twoSizes]) (.int .int32 2)
    (by simp [twoSizes])
  exact absurd hne (by decide)

/-- **Numbers of two sizes** are dumped to an array of numbers of two bytes each, in which the second
number has four, as its dumper announces it. -/
theorem dumpArray_binary_twoSizes :
    let ctx : Context := {}
    (ctx.builtinSession.registries ctx.registry).HasBuiltin ∧
    (∀ v ∈ Element.valuesAll twoSizes, v.type ∈ binaryTypes) ∧
    (ctx.dumpArray .binary twoSizes).result ctx.builtinSession =
      .ok (write .int2 [2] [some [0, 1], some [0, 0, 0, 2]], ⟨1005⟩) ∧
    .int .int32 2 ∈ Element.valuesAll twoSizes ∧
    (ctx.dumpValue .binary (.int .int32 2)).result ctx.builtinSession =
      .ok ([0, 0, 0, 2], .int4) ∧
    Oid.int4 ≠ .int2 := by
  intro ctx
  have hint32 : .int .int32 2 ∈ Element.valuesAll twoSizes := by simp [twoSizes]
  have hbuiltin := ctx.hasBuiltin_builtinSession
  obtain ⟨c, hcarries⟩ := hbuiltin.carries
  exact ⟨hbuiltin, fun v => type_mem_binaryTypes_of_mem_twoSizes,
    result_dumpArray_twoSizes hcarries, hint32, result_dumpValue_int hcarries (by decide) _,
    by decide⟩

end PgAdapt
