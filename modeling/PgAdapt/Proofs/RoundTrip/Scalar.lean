import PgAdapt.Proofs.Catalogue.Recipes
import PgAdapt.Proofs.Scalar.Codecs
import PgAdapt.Proofs.Session.Alone

/-!
# Single values come back across catalogues

A value that has been dumped where one catalogue is registered is loaded where the same or the other
catalogue is registered: `PgAdapt.loadValue_dumpValue`. The only values that do not come back are
texts with the character zero, and they are not dumped in the first place. The bytes are loaded
under the type that the dumper announces; where that is left open, or is text, they may be loaded
under any type of texts, `PgAdapt.loadedAs`.

What has to be shown is a matter of two catalogues alone, `PgAdapt.Catalogue.Returns`, and is shown
for one kind of values at a time. Neither the sessions nor the contexts need to have anything to do
with each other.
-/

namespace PgAdapt

/-! ### What comes back -/

/-- The types of values that come back in either format. -/
def plainTypes : List ValueType :=
  [.bool, .text, .staticText, .blob, .sharedBlob] ++ Catalogue.dumpedInts.map .int

/-- The **types of values that come back** in a format. Floating-point numbers are only considered
in binary form. -/
def returnedTypes : Format → List ValueType
  | .text => plainTypes
  | .binary => plainTypes ++ [FloatType.single, .double].map .float

/-- A value is a text that **holds the character zero**. -/
def Value.HoldsZero (v : Value) : Prop := ∃ s, v.text? = some s ∧ '\x00' ∈ s.toList

/-- The types of the server that bytes may be **loaded as**, by the type that the dumper has
announced: any type of texts for texts, also where the choice has been left to the server. -/
def loadedAs (announced : Oid) : List Oid :=
  if announced.isUnspecified ∨ announced = .text then Text.serverTypes else [announced]

/-- A whole number is only loaded as one of its own size. -/
theorem loadedAs_int {t : IntType} (h : t ∈ Catalogue.dumpedInts) : loadedAs t.oid = [t.oid] := by
  revert t
  decide

/-- Bytes are loaded as the same types where a type that is left open is announced as text. -/
theorem loadedAs_announced (sc : Scope) (oid : Oid) :
    loadedAs (sc.announced oid) = loadedAs oid := by
  rcases hopen : oid.isUnspecified with _ | _
  · rw [sc.announced_of_isUnspecified_false hopen]
  · rcases sc.announced_eq_or_eq_text oid with h | h
    · rw [h]
    · rw [h, loadedAs, loadedAs, hopen]
      rfl

namespace Catalogue

/-! ### One kind of values at a time -/

/-- A catalogue **loads** bytes as a value, under each type that they may be loaded as. -/
def Loads (c : Catalogue) (format : Format) (announced : Oid) (bytes : Bytes) (v : Value) : Prop :=
  ∀ oid ∈ loadedAs announced, ∃ loader,
    c.recipes.loader oid format = some (.scalar loader) ∧ loader.load bytes = .ok v

/-- A value **returns** if one catalogue dumps it, as a value of an announced type, and the other
one loads it again. -/
def Returns (c c' : Catalogue) (format : Format) (announced : Oid) (v : Value) : Prop :=
  ∃ dumper bytes, c.recipes.dumper v.type format = some (.scalar dumper) ∧
    dumper.oid = announced ∧ dumper.dump v = .ok bytes ∧ c'.Loads format announced bytes v.owned

/-- A catalogue **refuses** to dump a value. -/
def Refuses (c : Catalogue) (format : Format) (v : Value) : Prop :=
  ∃ dumper e, c.recipes.dumper v.type format = some (.scalar dumper) ∧ dumper.dump v = .error e

variable (c c' : Catalogue)

/-- A value returns by way of a dumper of one catalogue and a loader of the other one, under the
type that the dumper announces. -/
theorem returns_of_codecs {format : Format} {v : Value} {bytes : Bytes} (dumper : ScalarDumper)
    (loader : ScalarLoader) (hoids : loadedAs dumper.oid = [dumper.oid])
    (hdumper : c.recipes.dumper v.type format = some (.scalar dumper))
    (hloader : c'.recipes.loader dumper.oid format = some (.scalar loader))
    (hdump : dumper.dump v = .ok bytes) (hload : loader.load bytes = .ok v.owned) :
    c.Returns c' format dumper.oid v := by
  refine ⟨dumper, bytes, hdumper, rfl, hdump, fun oid hoid => ?_⟩
  rw [hoids, List.mem_singleton] at hoid
  rw [hoid]
  exact ⟨loader, hloader, hload⟩

/-- The type that the dumpers of texts announce in a format. -/
def textOid : Format → Oid
  | .text => .unspecified
  | .binary => .text

theorem loadedAs_textOid (format : Format) : loadedAs (textOid format) = Text.serverTypes := by
  rcases format with _ | _ <;> rfl

/-- The dumper of texts in a format. -/
theorem exists_dumper_text {v : Value} {s : String} (hv : v.text? = some s) (format : Format) :
    ∃ dumper codec, c.recipes.dumper v.type format = some (.scalar dumper) ∧
      dumper.oid = textOid format ∧ dumper.dump v = Text.dump c codec v := by
  have hcases : v = .text s ∨ v = .staticText s := by
    rcases v with _ | _ | _ | s' | s' | _ | _ | _ | _
    case text => exact .inl (congrArg Value.text (Option.some.inj hv))
    case staticText => exact .inr (congrArg Value.staticText (Option.some.inj hv))
    all_goals cases hv
  rcases format with _ | _
  · refine ⟨Text.textDumper c, _, ?_, rfl, rfl⟩
    rcases hcases with rfl | rfl <;> cases c <;> rfl
  · refine ⟨Text.binaryDumper c, _, ?_, rfl, rfl⟩
    rcases hcases with rfl | rfl <;> cases c <;> rfl

theorem refuses_of_holdsZero {v : Value} (h : v.HoldsZero) (format : Format) :
    c.Refuses format v := by
  obtain ⟨s, hv, hs⟩ := h
  obtain ⟨dumper, codec, hdumper, -, hdump⟩ := c.exists_dumper_text hv format
  obtain ⟨e, he⟩ := Text.dump_eq_error c codec hv hs
  exact ⟨dumper, e, hdumper, hdump.trans he⟩

theorem returns_text {v : Value} {s : String} (hv : v.text? = some s) (howned : v.owned = .text s)
    (hs : '\x00' ∉ s.toList) (format : Format) : c.Returns c' format (textOid format) v := by
  obtain ⟨dumper, codec, hdumper, hoid, hdump⟩ := c.exists_dumper_text hv format
  have hok : dumper.dump v = .ok (Utf8.encode s) := hdump.trans (Text.dump_eq c codec hv hs)
  refine ⟨dumper, Utf8.encode s, hdumper, hoid, hok, fun oid hmem => ?_⟩
  rw [loadedAs_textOid] at hmem
  rw [howned]
  exact ⟨Text.loader c' format, c'.loader_recipes_text hmem format, Text.load_encode c' format s⟩

theorem returns_blob {v : Value} {bytes : Bytes} (hv : v = .blob bytes ∨ v = .sharedBlob bytes)
    (format : Format) : c.Returns c' format .bytea v := by
  have hblob : v.blob? = some bytes := by rcases hv with rfl | rfl <;> rfl
  have howned : v.owned = .blob bytes := by rcases hv with rfl | rfl <;> rfl
  rcases format with _ | _
  · refine c.returns_of_codecs c' (Blob.textDumper c) (Blob.textLoader c') rfl ?_
      (by cases c' <;> rfl) (Blob.textDumper_dump_eq c hblob) ?_
    · rcases hv with rfl | rfl <;> cases c <;> rfl
    · rw [howned]
      exact Blob.load_hex c' bytes
  · refine c.returns_of_codecs c' (Blob.binaryDumper c) (Blob.binaryLoader c') rfl ?_
      (by cases c' <;> rfl) (Blob.binaryDumper_dump_eq c hblob) ?_
    · rcases hv with rfl | rfl <;> cases c <;> rfl
    · rw [howned]
      rfl

theorem returns_int {t : IntType} (h : t ∈ dumpedInts) (word : t.Word) (format : Format) :
    c.Returns c' format t.oid (.int t word) := by
  have hcases : t = .int16 ∨ t = .int32 ∨ t = .int64 := by
    simpa [dumpedInts] using h
  rcases format with _ | _
  · refine c.returns_of_codecs c' (t.textDumper c) (t.textLoader c') (loadedAs_int h) ?_ ?_
      (t.textDumper_dump_eq c word) (t.load_signedDecimal c' word)
    · rcases hcases with rfl | rfl | rfl <;> cases c <;> rfl
    · rcases hcases with rfl | rfl | rfl <;> cases c' <;> rfl
  · refine c.returns_of_codecs c' (t.binaryDumper c) (t.binaryLoader c') (loadedAs_int h) ?_ ?_
      (t.binaryDumper_dump_eq c word) (t.load_ofWord c' word)
    · rcases hcases with rfl | rfl | rfl <;> cases c <;> rfl
    · rcases hcases with rfl | rfl | rfl <;> cases c' <;> rfl

theorem returns_float (t : FloatType) (word : t.Word) :
    c.Returns c' .binary t.oid (.float t word) := by
  refine c.returns_of_codecs c' (t.binaryDumper c) (t.binaryLoader c') ?_ ?_ ?_
    (t.binaryDumper_dump_eq c word) (t.load_ofWord c' word)
  · cases t <;> rfl
  · cases t <;> cases c <;> rfl
  · cases t <;> cases c' <;> rfl

theorem returns_bool (b : Bool) (format : Format) : c.Returns c' format .bool (.bool b) := by
  rcases format with _ | _
  · exact c.returns_of_codecs c' (Singleton.boolTextDumper c) (Singleton.boolTextLoader c') rfl
      (by cases c <;> rfl) (by cases c' <;> rfl) (Singleton.boolTextDumper_dump_eq c b)
      (Singleton.load_letter c' b)
  · exact c.returns_of_codecs c' (Singleton.boolBinaryDumper c) (Singleton.boolBinaryLoader c') rfl
      (by cases c <;> rfl) (by cases c' <;> rfl) (Singleton.boolBinaryDumper_dump_eq c b)
      (Singleton.load_flag c' b)

/-- **A value returns** from any catalogue to any catalogue, unless it is a text with the character
zero. -/
theorem exists_returns {format : Format} {v : Value} (hv : v.type ∈ returnedTypes format)
    (hzero : ¬v.HoldsZero) : ∃ announced, c.Returns c' format announced v := by
  have hs {s : String} (htext : v.text? = some s) : '\x00' ∉ s.toList :=
    fun hmem => hzero ⟨s, htext, hmem⟩
  rcases v with b | ⟨t, word⟩ | ⟨t, word⟩ | s | s | bytes | bytes | _ | items
  case bool => exact ⟨_, c.returns_bool c' b format⟩
  case int =>
    refine ⟨_, c.returns_int c' ?_ word format⟩
    rcases format with _ | _ <;> simpa [returnedTypes, plainTypes, Value.type] using hv
  case float =>
    rcases format with _ | _
    · exact absurd hv (by simp [returnedTypes, plainTypes, Value.type, dumpedInts])
    · exact ⟨_, c.returns_float c' t word⟩
  case text => exact ⟨_, c.returns_text c' rfl rfl (hs rfl) format⟩
  case staticText => exact ⟨_, c.returns_text c' rfl rfl (hs rfl) format⟩
  case blob => exact ⟨_, c.returns_blob c' (.inl rfl) format⟩
  case sharedBlob => exact ⟨_, c.returns_blob c' (.inr rfl) format⟩
  case null =>
    exact absurd hv (by cases format <;> simp [returnedTypes, plainTypes, Value.type, dumpedInts])
  case array =>
    exact absurd hv (by cases format <;> simp [returnedTypes, plainTypes, Value.type, dumpedInts])

end Catalogue

/-! ### In a session -/

section Session

variable {c c' : Catalogue} {s s' : Session} {ctx ctx' : Context} {format : Format} {v : Value}
  (h : (s.registries ctx.registry).Carries c)

include h

/-- A dumper of a catalogue dumps what it dumps where the catalogue is carried. -/
theorem result_dumpValue_of_carries {dumper : ScalarDumper}
    (hdumper : c.recipes.dumper v.type format = some (.scalar dumper)) :
    (ctx.dumpValue format v).result s =
      (do return (← dumper.dump v, (s.scope ctx).announced dumper.oid)) := by
  have harray (items : PgArray) : v ≠ .array items := by
    rintro rfl
    rw [show (Value.array items).type = .array from rfl, c.dumper_recipes_array] at hdumper
    cases hdumper
  obtain ⟨factory, hfactory, hrecipe⟩ := Registry.exists_dumper? (h.dumper hdumper)
  exact World.result_dumpValue_scalar harray hfactory hrecipe

theorem result_loadValue_of_carries {oid : Oid} {loader : ScalarLoader}
    (hloader : c.recipes.loader oid format = some (.scalar loader)) (data : Bytes) :
    (ctx.loadValue oid format data).result s = loader.load data := by
  obtain ⟨factory, hfactory, hrecipe⟩ := Registry.exists_loader? (h.loader hloader)
  exact World.result_loadValue_scalar hfactory hrecipe data

/-- What a catalogue refuses to dump is not dumped. -/
theorem exists_dumpValue_eq_error (hv : c.Refuses format v) :
    ∃ e, (ctx.dumpValue format v).result s = .error e := by
  obtain ⟨dumper, e, hdumper, hdump⟩ := hv
  rw [result_dumpValue_of_carries h hdumper, hdump]
  exact ⟨e, rfl⟩

/-- What returns between two catalogues is dumped in one session and loaded in the other. -/
theorem exists_dumpValue_eq_ok (h' : (s'.registries ctx'.registry).Carries c') {announced : Oid}
    (hv : c.Returns c' format announced v) :
    ∃ bytes, (ctx.dumpValue format v).result s =
        .ok (bytes, (s.scope ctx).announced announced) ∧
      ∀ oid ∈ loadedAs announced, (ctx'.loadValue oid format bytes).result s' = .ok v.owned := by
  obtain ⟨dumper, bytes, hdumper, rfl, hdump, hloads⟩ := hv
  refine ⟨bytes, ?_, fun oid hoid => ?_⟩
  · rw [result_dumpValue_of_carries h hdumper, hdump]
    rfl
  · obtain ⟨loader, hloader, hload⟩ := hloads oid hoid
    rw [result_loadValue_of_carries h' hloader, hload]

end Session

/-- **Single values come back across catalogues.** Let one registry carry a catalogue and another
one the same or the other catalogue, as they do once it has been registered there, alone or with
its arrays. A value – a truth value, a whole number, a text or a string of bytes, and in binary form
a floating-point number – is dumped in a context with the first registry, unless it is a text with
the character zero; and then it is not dumped. What it has been dumped to is loaded in a context
with the second registry as the value, its text or its bytes now owned by it, under the type that
has been announced; if that is text or has been left open, under any type of texts. -/
theorem loadValue_dumpValue :
    (∀ (c : Catalogue) (id : RegistryId) (s : Session),
      ((Action.installCatalogue id c).result s = .ok () ∧
        (((Action.installCatalogue id c).after s).registries id).Carries c) ∧
      ((Action.installBuiltin id c).result s = .ok () ∧
        (((Action.installBuiltin id c).after s).registries id).Carries c)) ∧
    ∀ {c c' : Catalogue} {s s' : Session} {ctx ctx' : Context},
      (s.registries ctx.registry).Carries c → (s'.registries ctx'.registry).Carries c' →
      ∀ {format : Format} {v : Value}, v.type ∈ returnedTypes format →
        ((∃ e, (ctx.dumpValue format v).result s = .error e) ↔ v.HoldsZero) ∧
        (¬v.HoldsZero →
          ∃ bytes announced, (ctx.dumpValue format v).result s = .ok (bytes, announced) ∧
            ∀ oid ∈ loadedAs announced,
              (ctx'.loadValue oid format bytes).result s' = .ok v.owned) := by
  refine ⟨fun c id s => ⟨Action.carries_installCatalogue c s, Action.carries_installBuiltin c s⟩,
    fun {c c'} {s s'} {ctx ctx'} h h' {format v} hv => ?_⟩
  have hreturns (hzero : ¬v.HoldsZero) :
      ∃ bytes announced, (ctx.dumpValue format v).result s = .ok (bytes, announced) ∧
        ∀ oid ∈ loadedAs announced, (ctx'.loadValue oid format bytes).result s' = .ok v.owned := by
    obtain ⟨announced, hreturns⟩ := c.exists_returns c' hv hzero
    obtain ⟨bytes, hdump, hload⟩ := exists_dumpValue_eq_ok h h' hreturns
    -- The context may announce text for a type that is left open, but that is loaded alike.
    refine ⟨bytes, _, hdump, fun oid hoid => hload oid ?_⟩
    rwa [loadedAs_announced] at hoid
  refine ⟨⟨fun herror => ?_, fun hzero => ?_⟩, hreturns⟩
  · obtain ⟨e, he⟩ := herror
    by_contra hzero
    obtain ⟨bytes, announced, hok, -⟩ := hreturns hzero
    rw [he] at hok
    cases hok
  · exact exists_dumpValue_eq_error h (c.refuses_of_holdsZero hzero format)

/-! ### A text that looks like a string of bytes -/

/-- A session in which nothing but a catalogue has been registered. -/
def catalogueSession (c : Catalogue) : Session := (Action.installCatalogue .shared c).after default

/-- A text that starts like the digits of a string of bytes comes back as another type of texts, and
the character zero is not dumped. -/
theorem loadValue_dumpValue_hexMark :
    (Context.dumpValue {} .text (.staticText "\\x")).result (catalogueSession .reference) =
        .ok (Utf8.encode "\\x", .unspecified) ∧
      (Context.loadValue {} .varchar .text (Utf8.encode "\\x")).result
          (catalogueSession .optimized) = .ok (.text "\\x") ∧
      ∃ e, (Context.dumpValue {} .binary (.text "\x00")).result (catalogueSession .optimized) =
        .error e := by
  have hcarries (c : Catalogue) :
      ((catalogueSession c).registries ({} : Context).registry).Carries c :=
    (loadValue_dumpValue.1 c .shared default).1.2
  have hzero : ¬(Value.staticText "\\x").HoldsZero := by
    rintro ⟨s, hs, hmem⟩
    obtain rfl : "\\x" = s := Option.some.inj hs
    exact absurd hmem (by decide)
  have hdumper : Catalogue.reference.recipes.dumper (Value.staticText "\\x").type .text =
      some (.scalar (Text.textDumper .reference)) := rfl
  have hdump : (Context.dumpValue {} .text (.staticText "\\x")).result
      (catalogueSession .reference) = .ok (Utf8.encode "\\x", .unspecified) := by
    rw [result_dumpValue_of_carries (hcarries .reference) hdumper,
      Text.textDumper_dump_eq .reference rfl fun hmem => hzero ⟨"\\x", rfl, hmem⟩]
    rfl
  have htext : (Value.staticText "\\x").type ∈ returnedTypes .text := by decide
  have hbinary : (Value.text "\x00").type ∈ returnedTypes .binary := by decide
  obtain ⟨bytes, announced, hok, hload⟩ :=
    (loadValue_dumpValue.2 (hcarries .reference) (hcarries .optimized) htext).2 hzero
  obtain ⟨rfl, rfl⟩ := Prod.mk.inj (Except.ok.inj (hdump.symm.trans hok))
  refine ⟨hdump, hload .varchar (by decide), ?_⟩
  exact (loadValue_dumpValue.2 (hcarries .optimized) (hcarries .optimized) hbinary).1.mpr
    ⟨"\x00", rfl, by decide⟩

end PgAdapt
