import PgAdapt.Proofs.RoundTrip.Scalar
import PgAdapt.Proofs.RoundTrip.Text

/-!
# Arrays of built-in values come back

With a built-in catalogue there is no need to assume anything of the codecs. `PgAdapt.IsBuiltin`
says which values the catalogue loads as values of a type of the server; each of them survives on
its own (`PgAdapt.surviveAlone_of_isBuiltin`), so an array of them comes back. Both this and the
general statement, for any registry, are in `PgAdapt.loadWith_dumpArray_text`.
-/

namespace PgAdapt

/-! ### Values of built-in types -/

/-- The **values that a catalogue loads** as values of a type of the server. -/
inductive IsBuiltin : Oid → Value → Prop where
  /-- A text, as any type of texts, if it does not hold the character zero. -/
  | text {element : Oid} (h : element ∈ Text.serverTypes) {s : String} (hs : '\x00' ∉ s.toList) :
      IsBuiltin element (.text s)
  /-- A text that outlives every value. -/
  | staticText {element : Oid} (h : element ∈ Text.serverTypes) {s : String}
      (hs : '\x00' ∉ s.toList) : IsBuiltin element (.staticText s)
  /-- A string of bytes. -/
  | blob (bytes : Bytes) : IsBuiltin .bytea (.blob bytes)
  /-- A string of bytes that values share. -/
  | sharedBlob (bytes : Bytes) : IsBuiltin .bytea (.sharedBlob bytes)
  /-- A whole number with a sign. -/
  | int {t : IntType} (h : t ∈ Catalogue.dumpedInts) (word : t.Word) : IsBuiltin t.oid (.int t word)
  /-- A truth value. -/
  | bool (b : Bool) : IsBuiltin .bool (.bool b)

/-- The types of the server that these values are loaded as. -/
def builtinElements : List Oid :=
  Text.serverTypes ++ [.bytea, .bool] ++ Catalogue.dumpedInts.map IntType.oid

/-- A catalogue has a loader for each of these types. -/
theorem Recipes.isSome_loader_text (r : Recipes) (c : Catalogue) {element : Oid}
    (h : element ∈ builtinElements) :
    ((r.installBuiltin c).loader element .text).isSome = true := by
  have hloaded : element ∈ Catalogue.loadedOids := by
    revert element
    decide
  have hsome : (c.recipes.loader element .text).isSome = true := by
    revert element
    cases c <;> decide
  obtain ⟨recipe, hrecipe⟩ := Option.isSome_iff_exists.mp hsome
  rw [loader_installBuiltin r c (Catalogue.ne_arrayOid_of_mem_loadedOids hloaded),
    installCatalogue_eq_onTopOf, loader_onTopOf hrecipe]
  rfl

/-- **A value of a built-in type returns** where it came from. -/
theorem IsBuiltin.exists_returns {element : Oid} {v : Value} (h : IsBuiltin element v)
    (c : Catalogue) :
    ∃ announced, element ∈ loadedAs announced ∧ c.Returns c .text announced v := by
  cases h with
  | text h hs | staticText h hs =>
    rw [← Catalogue.loadedAs_textOid .text] at h
    exact ⟨_, h, c.returns_text c rfl rfl hs .text⟩
  | blob bytes => exact ⟨_, List.mem_singleton_self _, c.returns_blob c (.inl rfl) .text⟩
  | sharedBlob bytes => exact ⟨_, List.mem_singleton_self _, c.returns_blob c (.inr rfl) .text⟩
  | int h word =>
    refine ⟨_, ?_, c.returns_int c h word .text⟩
    rw [loadedAs_int h]
    exact List.mem_singleton_self _
  | bool b => exact ⟨_, List.mem_singleton_self _, c.returns_bool c b .text⟩

/-! ### Values on their own -/

/-- What a value is dumped to on its own. -/
def dumpedAlone (s : Session) (ctx : Context) (v : Value) : Bytes × Oid :=
  ((ctx.dumpValue .text v).result s).toOption.getD default

/-- **Values of a built-in type survive on their own** where a catalogue has been registered. -/
theorem surviveAlone_of_isBuiltin {s : Session} {ctx : Context} {r : Recipes} {c : Catalogue}
    (hrecipes : (s.registries ctx.registry).recipes = r.installBuiltin c) {items : PgArray}
    {element : Oid} (hitems : ∀ v ∈ Element.valuesAll items, IsBuiltin element v) :
    SurviveAlone s ctx .text element items (dumpedAlone s ctx) Value.owned := by
  have hboth (v : Value) (hv : v ∈ Element.valuesAll items) : ∃ token oid,
      (ctx.dumpValue .text v).result s = .ok (token, oid) ∧
        (ctx.loadValue element .text token).result s = .ok v.owned := by
    obtain ⟨announced, helement, hreturns⟩ := (hitems v hv).exists_returns c
    have hcarries : (s.registries ctx.registry).Carries c := .of_installBuiltin hrecipes
    obtain ⟨token, hdump, hload⟩ := exists_dumpValue_eq_ok hcarries hcarries hreturns
    exact ⟨token, _, hdump, hload element helement⟩
  constructor
  · intro v hv
    obtain ⟨token, oid, hdump, -⟩ := hboth v hv
    rw [dumpedAlone, hdump]
    rfl
  · intro v hv
    obtain ⟨token, oid, hdump, hload⟩ := hboth v hv
    rw [dumpedAlone, hdump]
    exact hload

/-! ### Arrays in text -/

/-- **Arrays in text come back.** The array may be nested in any way, with arrays of any lengths
and `NULL`s anywhere, and a value in it may be an array of its own. If each value survives on its
own, under the type that the loader of arrays is made for, the array is dumped to a text, and the
loader gives it back from the text, each value replaced by what comes back of it on its own; the
loader may be used in any session that looks the same from the context, such as the one that the
dumper leaves. In particular, once either catalogue has been registered, arrays of texts without
the character zero, of strings of bytes, of whole numbers of one size and of truth values come
back with the values owning their texts and bytes; that is to say, as they were, if they did so
before. -/
theorem loadWith_dumpArray_text :
    (∀ {s : Session} {ctx : Context} {items : PgArray} {element : Oid}
        {dumped : Value → Bytes × Oid} {loaded : Value → Value} {factory : LoaderFactory},
      SurviveAlone s ctx .text element items dumped loaded →
      ((s.registries ctx.registry).loader? element .text).isSome →
      factory.recipe = .arrayText element → ∀ array : Oid,
        ∃ text type, (ctx.dumpArray .text items).result s = .ok (text, type) ∧
          ((ctx.dumpArray .text items).after s).scope ctx = s.scope ctx ∧
          ∀ s' : Session, s'.scope ctx = s.scope ctx →
            (ctx.loadWith factory array text).result s' =
              .ok (.array (Element.mapAll loaded items))) ∧
    (∀ (c : Catalogue) (s : Session) (ctx : Context) {items : PgArray} {element : Oid}
        {factory : LoaderFactory},
      element ∈ builtinElements → (∀ v ∈ Element.valuesAll items, IsBuiltin element v) →
      factory.recipe = .arrayText element → ∀ array : Oid,
        (Action.installBuiltin ctx.registry c).result s = .ok () ∧
        let s₀ := (Action.installBuiltin ctx.registry c).after s
        ∃ text type, (ctx.dumpArray .text items).result s₀ = .ok (text, type) ∧
          ((ctx.dumpArray .text items).after s₀).scope ctx = s₀.scope ctx ∧
          ∀ s' : Session, s'.scope ctx = s₀.scope ctx →
            (ctx.loadWith factory array text).result s' =
              .ok (.array (Element.mapAll Value.owned items))) ∧
    (∀ items : PgArray,
      (∀ v ∈ Element.valuesAll items, v.type ≠ .staticText ∧ v.type ≠ .sharedBlob) →
        Element.mapAll Value.owned items = items) := by
  refine ⟨fun halone hloader hfactory array =>
    exists_text_of_surviveAlone halone hloader hfactory array, ?_, fun items h =>
      Element.mapAll_eq_self items fun v hv => Value.owned_eq_self (h v hv).1 (h v hv).2⟩
  intro c s ctx items element factory helement hitems hfactory array
  obtain ⟨⟨x, hresult⟩, hrecipes⟩ := Action.enters_installBuiltin c s
  replace hrecipes : (((Action.installBuiltin ctx.registry c).after s).registries
      ctx.registry).recipes = (s.registries ctx.registry).recipes.installBuiltin c := hrecipes
  refine ⟨hresult, ?_⟩
  have halone := surviveAlone_of_isBuiltin hrecipes hitems
  refine exists_text_of_surviveAlone halone ?_ hfactory array
  have hloader := (s.registries ctx.registry).recipes.isSome_loader_text c helement
  rw [← hrecipes] at hloader
  exact Option.isSome_map.symm.trans hloader

/-! ### A list with a list in it -/

section Lists

/-- A session in which nothing but texts and lists in text can be dumped, and texts can be
loaded. -/
def listSession : Session where
  registries _ := ((Registry.empty.addDumper .text .text
    ⟨0, "", .scalar (Text.textDumper .reference)⟩).addDumper .array .text
      ⟨1, "", .array .text⟩).addLoader .text .text ⟨2, "", .scalar (Text.loader .reference .text)⟩

/-- Lists of any depths, with a `NULL`, a text that reads like one, and a list as a value. -/
def boxedList : PgArray :=
  [.value (.text "NULL"), .null, .array [],
    .array [.array [.value (.array [.value (.text "a,b")])]]]

/-- The text that comes back of a text or of the list that is a value. -/
def boxedText : Value → String
  | .text s => s
  | _ => "\x7b\"a,b\"\x7d"

/-- The bytes and the type that a text or the list that is a value is dumped to. -/
def boxedBytes (v : Value) : Bytes × Oid :=
  (Utf8.encode (boxedText v), if v.type = .array then .textArray else .unspecified)

theorem eq_of_mem_boxedList {v : Value} (h : v ∈ Element.valuesAll boxedList) :
    v = .text "NULL" ∨ v = .array [.value (.text "a,b")] := by
  simpa [boxedList] using h

theorem surviveAlone_boxedList :
    SurviveAlone listSession {} .text .text boxedList boxedBytes fun v => .text (boxedText v) where
  dump v hv := by
    rcases eq_of_mem_boxedList hv with rfl | rfl <;> rfl
  load v _ := by
    rw [World.result_loadValue_scalar rfl rfl]
    exact Text.load_encode .reference .text (boxedText v)

/-- A session in which the optimized catalogue has been registered. -/
def optimizedSession : Session := (Action.installBuiltin .shared .optimized).after default

/-- A list of texts, with a `NULL` and an empty list. -/
def commaList : PgArray := [.value (.text "a,b"), .null, .array [], .array [.value (.text "")]]

theorem eq_of_mem_commaList {v : Value} (h : v ∈ Element.valuesAll commaList) :
    v = .text "a,b" ∨ v = .text "" := by
  simpa [commaList] using h

theorem isBuiltin_commaList {v : Value} (h : v ∈ Element.valuesAll commaList) :
    IsBuiltin .text v := by
  have htext : Oid.text ∈ Text.serverTypes := by decide
  rcases eq_of_mem_commaList h with rfl | rfl
  · exact .text htext (by decide)
  · exact .text htext (by decide)

/-- Both lists come back in the session that the dumper leaves. -/
theorem loadWith_dumpArray_text_boxedList :
    (∃ text type, (Context.dumpArray {} .text boxedList).result listSession = .ok (text, type) ∧
      (Context.loadWith {} ⟨3, "", .arrayText .text⟩ .textArray text).result
          ((Context.dumpArray {} .text boxedList).after listSession) =
        .ok (.array (Element.mapAll (fun v => .text (boxedText v)) boxedList))) ∧
    ∃ text type,
      (Context.dumpArray {} .text commaList).result optimizedSession = .ok (text, type) ∧
        (Context.loadWith {} ⟨3, "", .arrayText .text⟩ .textArray text).result
            ((Context.dumpArray {} .text commaList).after optimizedSession) =
          .ok (.array commaList) := by
  have hrecipe : (⟨3, "", .arrayText .text⟩ : LoaderFactory).recipe = .arrayText .text := rfl
  have howned : Element.mapAll Value.owned commaList = commaList := by
    refine loadWith_dumpArray_text.2.2 commaList fun v hv => ?_
    rcases eq_of_mem_commaList hv with rfl | rfl <;> simp [Value.type]
  obtain ⟨text, type, hdump, hscope, hload⟩ :=
    loadWith_dumpArray_text.1 surviveAlone_boxedList rfl hrecipe .textArray
  obtain ⟨-, text', type', hdump', hscope', hload'⟩ :=
    loadWith_dumpArray_text.2.1 .optimized default {} (by decide)
      (fun _ => isBuiltin_commaList) hrecipe .textArray
  rw [howned] at hload'
  exact ⟨⟨text, type, hdump, hload _ hscope⟩, text', type', hdump', hload' _ hscope'⟩

end Lists

end PgAdapt
