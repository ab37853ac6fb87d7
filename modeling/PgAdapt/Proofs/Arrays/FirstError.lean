import PgAdapt.Proofs.ArrayBinary.ElementType

/-!
# The first value that cannot be dumped

An array is dumped as a whole or not at all. It is refused exactly if one of its values cannot be
dumped, and then for the reason that the first such value cannot: `PgAdapt.dumpArray_eq_error_iff`.
In text this holds of every array; in binary form the shape must not be at fault, and nothing may be
too long.

A value cannot be dumped (`PgAdapt.Undumpable`) if there is no maker of dumpers for its type, or if
the dumper fails. The dumper of a value that is itself an array fails as that array does, so again
by its first value that cannot be dumped.
-/

namespace PgAdapt

open ArrayBinary

/-! ### Arrays over anything that can be dumped -/

section Array

variable {α : Type} {f : α → Except AdaptError (Bytes × Oid)} {items : List (Element α)}
  {e : AdaptError}

theorem dumpText_eq_error_iff :
    dumpText f items = .error e ↔ FailsFirst f (Element.valuesAll items) e := by
  rw [← Element.traverseAll_eq_error_iff]
  exact bind_eq_error_iff_of_ok fun tokens _ => ⟨_, rfl⟩

/-- A leaf fails as its value does if its bytes are not too long. -/
theorem dumpLeaf_some_eq_error_iff {a : α}
    (hlength : ∀ x, f a = .ok x → x.1.length < lengthLimit) :
    dumpLeaf f (some a) = .error e ↔ f a = .error e := by
  refine bind_eq_error_iff_of_ok fun x hx => ⟨some x, ?_⟩
  change (checkLength "element" x.1.length >>= fun _ => pure (some x)) = _
  rw [checkLength_of_lt (hlength x hx)]
  rfl

/-- Leaves fail as the values among them do: a `NULL` does not fail. -/
theorem failsFirst_dumpLeaf_iff {leaves : List (Option α)}
    (hlength : ∀ a, some a ∈ leaves → ∀ x, f a = .ok x → x.1.length < lengthLimit) :
    FailsFirst (dumpLeaf f) leaves e ↔ FailsFirst f (leaves.filterMap id) e := by
  induction leaves with
  | nil => simp
  | cons leaf leaves ih =>
    have ih := ih fun a ha => hlength a (List.mem_cons_of_mem leaf ha)
    rw [failsFirst_cons_iff, ih]
    rcases leaf with _ | a
    · simp [dumpLeaf, pure, Except.pure]
    · have ha := hlength a List.mem_cons_self
      have hok : (∃ y, dumpLeaf f (some a) = .ok y) ↔ ∃ x, f a = .ok x := by
        simp only [dumpLeaf_some_eq_ok_iff]
        constructor
        · rintro ⟨-, x, hx, -⟩
          exact ⟨x, hx⟩
        · rintro ⟨x, hx⟩
          exact ⟨some x, x, hx, ha x hx, rfl⟩
      rw [dumpLeaf_some_eq_error_iff ha, hok, ← failsFirst_cons_iff]
      rfl

/-- A box that fits fails as its values do. -/
theorem dumpBinary_eq_error_iff {dims : List Nat} (hzero : 0 ∉ dims) (hbox : IsBox dims items)
    (hfits : Fits dims)
    (hlength : ∀ a ∈ Element.valuesAll items, ∀ x, f a = .ok x → x.1.length < lengthLimit) :
    dumpBinary f items = .error e ↔ FailsFirst f (Element.valuesAll items) e := by
  have hleaves : FailsFirst (dumpLeaf f) (Element.leavesAll items) e ↔
      FailsFirst f (Element.valuesAll items) e :=
    failsFirst_dumpLeaf_iff fun a ha => hlength a (Element.mem_valuesAll_iff.mpr ha)
  rw [dumpBinary_of_isBox f hzero hbox, ← hleaves, ← mapM_eq_error_iff]
  exact bind_eq_error_iff_of_ok fun dumped _ =>
    ⟨_, checkedMessage_of_fits hfits (dumpedMessage dims dumped)⟩

end Array

/-! ### Values that cannot be dumped -/

/-- A value **cannot be dumped** in a format, on its own in a session, for the reason that an error
names. -/
inductive Undumpable (s : Session) (ctx : Context) (format : Format) (v : Value) :
    AdaptError → Prop where
  /-- Nothing is registered for the type of the value. The error does not name the type. -/
  | noDumper (h : (s.registries ctx.registry).dumper? v.type format = none) :
      Undumpable s ctx format v (.dumperNotFound ValueType.unnamed format)
  /-- The dumper that the registered maker makes fails on the value. -/
  | fails {factory : DumperFactory} {dumper : Dumper} {e : AdaptError}
      (h : (s.registries ctx.registry).dumper? v.type format = some factory)
      (hbuild : (factory.build v.type ctx).result s = .ok dumper)
      (hdump : (dumper.dump v).result ((factory.build v.type ctx).after s) = .error e) :
      Undumpable s ctx format v e

section Undumpable

variable {s : Session} {ctx : Context} {format : Format} {v : Value} {e : AdaptError}

/-- What cannot be dumped is what is not dumped. -/
theorem result_dumpValue_eq_error_iff :
    (ctx.dumpValue format v).result s = .error e ↔ Undumpable s ctx format v e := by
  cases hfactory : (s.registries ctx.registry).dumper? v.type format with
  | none =>
    have hresult : (ctx.dumpValue format v).result s =
        .error (.dumperNotFound ValueType.unnamed format) :=
      (World.gives_dumpValue_of_none hfactory).result_eq
    rw [hresult]
    constructor
    · rintro ⟨⟩
      exact .noDumper hfactory
    · rintro (_ | ⟨hsome, -, -⟩)
      · rfl
      · rw [hfactory] at hsome
        cases hsome
  | some factory =>
    obtain ⟨r, hr, hgives⟩ := World.exists_gives_dumpValue hfactory
    obtain ⟨d, hbuild, w, -, hw, hbuilt, -⟩ := World.makes_build_dumper
      (World.start s rfl : World (s.scope ctx)) factory v.type
    have hdump : (d.dump v).result ((factory.build v.type ctx).after s) = r := by
      rw [← (hr w _ d hbuilt).result_eq, hw]
      rfl
    have hresult : (ctx.dumpValue format v).result s = .error e ↔ r = .error e := by
      rw [show (ctx.dumpValue format v).result s = _ from hgives.result_eq]
      exact bind_eq_error_iff_of_ok fun bytes _ => ⟨(bytes, _), rfl⟩
    rw [hresult, ← hdump]
    constructor
    · intro h
      exact .fails hfactory hbuild h
    · rintro (hnone | ⟨hsome, hbuild', h⟩)
      · rw [hfactory] at hnone
        cases hnone
      · obtain rfl := Option.some.inj (hfactory.symm.trans hsome)
        obtain rfl := Except.ok.inj (hbuild.symm.trans hbuild')
        exact h

/-- What is dumped is what can be dumped. -/
theorem exists_result_dumpValue_iff : (∃ x, (ctx.dumpValue format v).result s = .ok x) ↔
    ∀ e, ¬Undumpable s ctx format v e := by
  simp only [← result_dumpValue_eq_error_iff]
  exact exists_eq_ok_iff

theorem failsFirst_dumpValue_iff {values : List Value} :
    FailsFirst (fun v => (ctx.dumpValue format v).result s) values e ↔
      ∃ before v after, values = before ++ v :: after ∧
        (∀ u ∈ before, ∀ e', ¬Undumpable s ctx format u e') ∧ Undumpable s ctx format v e := by
  simp only [FailsFirst, exists_result_dumpValue_iff, result_dumpValue_eq_error_iff]

end Undumpable

/-! ### Arrays of values -/

/-- **An array is refused for its first value that cannot be dumped.** Let an array be dumped to
text, or let it be a box that fits and be dumped to binary form, none of its elements too long. It
is refused if and only if one of its values cannot be dumped; and the error is that of the first
such value in the order of the leaves, whatever `NULL`s and other values there are before and after
it. A value that is itself an array cannot be dumped if that array is refused, and for the same
reason. -/
theorem dumpArray_eq_error_iff (s : Session) (ctx : Context) (format : Format) (items : PgArray)
    (hbinary : format = .binary → (∃ dims, 0 ∉ dims ∧ IsBox dims items ∧ Fits dims) ∧
      ∀ v ∈ Element.valuesAll items, ∀ x,
        (ctx.dumpValue .binary v).result s = .ok x → x.1.length < lengthLimit) :
    ((∃ e, (ctx.dumpArray format items).result s = .error e) ↔
      ∃ v ∈ Element.valuesAll items, ∃ e, Undumpable s ctx format v e) ∧
    (∀ e, (ctx.dumpArray format items).result s = .error e ↔
      ∃ before v after, Element.valuesAll items = before ++ v :: after ∧
        (∀ u ∈ before, ∀ e', ¬Undumpable s ctx format u e') ∧ Undumpable s ctx format v e) ∧
    ∀ format', (s.registries ctx.registry).recipes.dumper .array format = some (.array format') →
      ∀ inner e, Undumpable s ctx format (.array inner) e ↔
        (ctx.dumpArray format' inner).result s = .error e := by
  have hfirst (e : AdaptError) : (ctx.dumpArray format items).result s = .error e ↔
      FailsFirst (fun v => (ctx.dumpValue format v).result s) (Element.valuesAll items) e := by
    rw [World.result_dumpArray]
    cases format with
    | text => exact dumpText_eq_error_iff
    | binary =>
      obtain ⟨⟨dims, hzero, hbox, hfits⟩, hlength⟩ := hbinary rfl
      exact dumpBinary_eq_error_iff hzero hbox hfits hlength
  refine ⟨?_, fun e => (hfirst e).trans failsFirst_dumpValue_iff, fun format' hrecipe inner e => ?_⟩
  · simp only [hfirst, exists_failsFirst_iff, result_dumpValue_eq_error_iff]
  · obtain ⟨factory, hfactory, hrecipe⟩ := Registry.exists_dumper? hrecipe
    rw [← result_dumpValue_eq_error_iff, World.result_dumpValue_array hfactory hrecipe]
    rcases (ctx.dumpArray format' inner).result s with e' | x <;> simp [Except.map]

/-! ### An array with two values that cannot be dumped -/

section Flawed

/-- A session in which truth values, texts and arrays can be dumped to binary form. -/
def mixedSession : Session where
  registries _ := ((Registry.empty.addDumper .bool .binary
    ⟨0, "", .scalar (Singleton.boolBinaryDumper .reference)⟩).addDumper .text .binary
      ⟨1, "", .scalar (Text.binaryDumper .reference)⟩).addDumper .array .binary
        ⟨2, "", .array .binary⟩

/-- A list with a text that is refused. -/
def flawedList : PgArray := [.null, .value (.text "\x00")]

/-- Two rows. The first value can be dumped, the second one is a list that cannot, and nothing is
registered for the type of the third one. -/
def flawedTable : PgArray :=
  [.array [.null, .value (.bool true)], .array [.value (.array flawedList), .value .null]]

/-- What is said about the text in the list. -/
def zeroRefused : AdaptError := .data "PostgreSQL text fields cannot contain NUL (0x00) bytes"

theorem undumpable_text_zero :
    Undumpable mixedSession {} .binary (.text "\x00") zeroRefused := by
  rw [← result_dumpValue_eq_error_iff, World.result_dumpValue_scalar (by simp) rfl rfl]
  rfl

theorem result_dumpValue_bool : (Context.dumpValue {} .binary (.bool true)).result mixedSession =
    .ok ([1], .bool) := by
  rw [World.result_dumpValue_scalar (by simp) rfl rfl]
  rfl

theorem not_undumpable_bool (e : AdaptError) :
    ¬Undumpable mixedSession {} .binary (.bool true) e :=
  exists_result_dumpValue_iff.mp ⟨_, result_dumpValue_bool⟩ e

theorem undumpable_null : Undumpable mixedSession {} .binary .null
    (.dumperNotFound ValueType.unnamed .binary) := .noDumper rfl

/-- The rows are refused for the text in the list, and not for the value after it. -/
theorem dumpArray_eq_error_iff_flawedTable :
    IsBox [2, 2] flawedTable ∧
      (Context.dumpArray {} .binary flawedTable).result mixedSession = .error zeroRefused := by
  have htable : IsBox [2, 2] flawedTable := by
    simp [IsBox, flawedTable, Element.array?]
  have hlist : IsBox [2] flawedList := by
    simp [IsBox, flawedList, Element.array?]
  obtain ⟨-, hinner, hboxed⟩ := dumpArray_eq_error_iff mixedSession {} .binary flawedList
    fun _ => ⟨⟨[2], by simp, hlist, by simp [Fits, lengthLimit]⟩, fun v hv x hx => by
      obtain rfl : v = .text "\x00" := by simpa [flawedList] using hv
      rw [result_dumpValue_eq_error_iff.mpr undumpable_text_zero] at hx
      cases hx⟩
  have hrefused : Undumpable mixedSession {} .binary (.array flawedList) zeroRefused :=
    (hboxed .binary rfl flawedList zeroRefused).mpr
      ((hinner zeroRefused).mpr ⟨[], _, [], rfl, by simp, undumpable_text_zero⟩)
  have houter := (dumpArray_eq_error_iff mixedSession {} .binary flawedTable
    fun _ => ⟨⟨[2, 2], by simp, htable, by simp [Fits, lengthLimit]⟩, fun v hv x hx => by
      have hcases : v = .bool true ∨ v = .array flawedList ∨ v = .null := by
        simpa [flawedTable] using hv
      rcases hcases with rfl | rfl | rfl
      · obtain rfl := Except.ok.inj (result_dumpValue_bool.symm.trans hx)
        decide
      · rw [result_dumpValue_eq_error_iff.mpr hrefused] at hx
        cases hx
      · rw [result_dumpValue_eq_error_iff.mpr undumpable_null] at hx
        cases hx⟩).2.1
  exact ⟨htable, (houter zeroRefused).mpr
    ⟨[.bool true], _, [.null], rfl, by simpa using not_undumpable_bool, hrefused⟩⟩

end Flawed

end PgAdapt
