import PgAdapt.Proofs.Session.Running

/-!
# Values and arrays on their own

A value that is dumped or loaded in passing comes out as it would on its own, and an array comes out
as its values would (`PgAdapt.World.result_dumpArray`). From here on sessions need not be followed.
-/

namespace PgAdapt

/-! ## Values on their own

A value is dumped **on its own** with a new cache, `PgAdapt.Context.dumpValue`, and so are bytes
loaded, `PgAdapt.Context.loadValue`. What comes of it says all that an array needs to know of its
leaves, because it is what comes of it with any cache that can be trusted, and in any session that
shows the context the same view: `PgAdapt.World.gives_dumpVia_of_dumpValue` and
`PgAdapt.World.exists_factory_of_loadValue`.

Arrays themselves are dumped and loaded by codecs that are made for the purpose,
`PgAdapt.Context.dumpArray` and `PgAdapt.Context.loadArray`.
-/

namespace Context

/-- The bytes and the announced type of a value, with a new cache. -/
def dumpValue (ctx : Context) (format : Format) (v : Value) : Action (Bytes × Oid) := do
  Dumpable.dumpVia (← Action.newTransformer ctx) format (.ofValue v)

/-- The value of a string of bytes, with a new cache. -/
def loadValue (ctx : Context) (oid : Oid) (format : Format) (data : Bytes) : Action Value := do
  Transformer.load (← Action.newTransformer ctx) oid format data

/-- The bytes and the type of an array, from a new dumper of arrays. -/
def dumpArray (ctx : Context) (format : Format) (items : PgArray) : Action (Bytes × Oid) := do
  let dumper ← Dumper.forArrays format ctx
  dumper.dumpArray items

/-- The value of a string of bytes, from a new loader that a given maker makes for a type. -/
def loadWith (ctx : Context) (factory : LoaderFactory) (oid : Oid) (data : Bytes) :
    Action Value := do
  let loader ← factory.build oid ctx
  loader.load data

end Context

/-- The values of an array **survive on their own** in a session: each is dumped to given bytes of
a given type, and a given value is loaded from these bytes, as one of the type `element`. -/
structure SurviveAlone (s : Session) (ctx : Context) (format : Format) (element : Oid)
    (items : PgArray) (dumped : Value → Bytes × Oid) (loaded : Value → Value) : Prop where
  dump : ∀ v ∈ Element.valuesAll items, (ctx.dumpValue format v).result s = .ok (dumped v)
  load : ∀ v ∈ Element.valuesAll items,
    (ctx.loadValue element format (dumped v).1).result s = .ok (loaded v)

namespace World

variable {s : Session} {ctx : Context} {format : Format}

/-! ### Values -/

/-- **A value is dumped by way of a trusted cache as on its own.** -/
theorem gives_dumpVia_of_dumpValue {v : Value} {r : Except AdaptError (Bytes × Oid)}
    (h : (ctx.dumpValue format v).result s = r) (w : World (s.scope ctx)) {id : TransformerId}
    (hid : id ∈ w.live) : w.Gives (Dumpable.dumpVia id format (.ofValue v)) r := by
  have hv : DeterminesDump (s.scope ctx) format (.ofValue v) := determinesDump_ofValue v format
  obtain ⟨q, hq⟩ := hv
  have halone : (start s rfl : World (s.scope ctx)).Gives (ctx.dumpValue format v) q :=
    (makes_newTransformer (start s rfl)).gives_bind fun w' id _ hid => hq w' id hid.1
  -- The new cache and the given one are both trusted, so they give the same.
  rw [← halone.unique h]
  exact hq w id hid

/-- A value of a type that nothing is registered for is not dumped. -/
theorem gives_dumpValue_of_none {v : Value}
    (hfactory : (s.registries ctx.registry).dumper? v.type format = none) :
    (start s rfl : World (s.scope ctx)).Gives (ctx.dumpValue format v)
      (throw (.dumperNotFound ValueType.unnamed format)) := by
  rw [← Dumpable.source_ofValue v] at hfactory
  exact (makes_newTransformer (start s rfl)).gives_bind fun w id _ hid =>
    (gives_dumperNamed_of_none w hid.1 hfactory _).bind_error _

/-- **A value is dumped by any dumper that the maker in the registry makes as on its own**, and the
maker says what is announced. -/
theorem exists_gives_dumpValue {v : Value} {factory : DumperFactory}
    (hfactory : (s.registries ctx.registry).dumper? v.type format = some factory) :
    ∃ r, (∀ (w : World (s.scope ctx)) (source : ValueType) (d : Dumper),
        BuiltDumper (s.scope ctx) w.live source factory.recipe d → w.Gives (d.dump v) r) ∧
      (start s rfl : World (s.scope ctx)).Gives (ctx.dumpValue format v)
        (do return (← r, factory.recipe.announced (s.scope ctx))) := by
  rw [← Dumpable.source_ofValue v] at hfactory
  obtain ⟨r, hr⟩ : DeterminesUse (s.scope ctx) factory.recipe (·.dump v) :=
    determinesUse_dump v factory.recipe
  refine ⟨r, hr, (makes_newTransformer _).gives_bind fun w id _ hid => ?_⟩
  refine (makes_dumperNamed w hid.1 hfactory _).gives_bind fun w' d _ hd => ?_
  rw [hd.oid_eq]
  exact .bind (hr w' _ d hd) fun _ _ w'' _ => .pure w'' _

/-- **A value that is dumped has a maker in the registry**, and the maker says what is announced. -/
theorem exists_factory_of_dumpValue {v : Value} {x : Bytes × Oid}
    (h : (ctx.dumpValue format v).result s = .ok x) :
    ∃ factory, (s.scope ctx).registry.dumper? v.type format = some factory ∧
      x.2 = factory.recipe.announced (s.scope ctx) := by
  cases hfactory : (s.scope ctx).registry.dumper? v.type format with
  | none => cases (gives_dumpValue_of_none hfactory).unique h
  | some factory =>
    obtain ⟨r, -, hgives⟩ := exists_gives_dumpValue hfactory
    obtain ⟨bytes, -, hx⟩ := bind_eq_ok_iff.mp (hgives.unique h)
    cases hx
    exact ⟨factory, rfl, rfl⟩

/-- Bytes of a type that nothing is registered for are not loaded. -/
theorem result_loadValue_of_none {oid : Oid}
    (hfactory : (s.scope ctx).registry.loader? oid format = none) (data : Bytes) :
    (ctx.loadValue oid format data).result s = .error (.loaderNotFound oid format) := by
  have halone : (start s rfl : World (s.scope ctx)).Gives (ctx.loadValue oid format data)
      (throw (.loaderNotFound oid format)) :=
    (makes_newTransformer (start s rfl)).gives_bind fun w' id _ hid =>
      (gives_loaderFor_of_none w' hid.1 hfactory).bind_error _
  exact halone.result_eq

/-- **Bytes are loaded by any loader that the maker in the registry makes as on their own.** -/
theorem gives_load_of_loader? {oid : Oid} {factory : LoaderFactory}
    (hfactory : (s.scope ctx).registry.loader? oid format = some factory) (data : Bytes)
    (w : World (s.scope ctx)) {oid' : Oid} {l : Loader}
    (hl : BuiltLoader (s.scope ctx) w.live oid' factory.recipe l) :
    w.Gives (l.load data) ((ctx.loadValue oid format data).result s) := by
  have hload : DeterminesLoad (s.scope ctx) factory.recipe (·.load data) :=
    determinesLoad Loader.chainLimit data factory.recipe
  obtain ⟨q, hq⟩ := hload
  have halone : (start s rfl : World (s.scope ctx)).Gives (ctx.loadValue oid format data) q :=
    (makes_newTransformer (start s rfl)).gives_bind fun w' id _ hid =>
      (makes_loaderFor w' hid.1 hfactory).gives_bind fun w'' l _ hl => hq w'' oid l hl
  rw [show (ctx.loadValue oid format data).result s = q from halone.result_eq]
  exact hq w oid' l hl

/-- Bytes that are loaded on their own are loaded by a maker in the registry. -/
theorem exists_factory_of_loadValue {oid : Oid} {data : Bytes} {v : Value}
    (h : (ctx.loadValue oid format data).result s = .ok v) :
    ∃ factory, (s.scope ctx).registry.loader? oid format = some factory ∧
      ∀ (w : World (s.scope ctx)) (oid : Oid) (l : Loader),
        BuiltLoader (s.scope ctx) w.live oid factory.recipe l → w.Gives (l.load data) (.ok v) := by
  cases hfactory : (s.scope ctx).registry.loader? oid format with
  | none =>
    rw [result_loadValue_of_none hfactory] at h
    cases h
  | some factory =>
    refine ⟨factory, rfl, fun w oid' l hl => ?_⟩
    rw [← h]
    exact gives_load_of_loader? hfactory data w hl

/-! ### Codecs of single values -/

/-- A codec of single values does what it does, whatever the session. -/
theorem result_dumpValue_scalar {v : Value} (hv : ∀ items, v ≠ .array items)
    {factory : DumperFactory} {codec : ScalarDumper}
    (hfactory : (s.registries ctx.registry).dumper? v.type format = some factory)
    (hrecipe : factory.recipe = .scalar codec) :
    (ctx.dumpValue format v).result s =
      (do return (← codec.dump v, (s.scope ctx).announced codec.oid)) := by
  have hsingle : Dumpable.ofValue v = .single v := by
    cases v with
    | array items => exact absurd rfl (hv items)
    | _ => rfl
  have h : (start s rfl : World (s.scope ctx)).Gives (ctx.dumpValue format v)
      (do return (← codec.dump v, (s.scope ctx).announced codec.oid)) := by
    refine (makes_newTransformer _).gives_bind fun w id _ hid => ?_
    rw [hsingle]
    refine (makes_dumperNamed w hid.1 hfactory _).gives_bind fun w' d _ hd => ?_
    rw [hrecipe] at hd
    cases hd with
    | scalar id codec => exact .bind (.action w' _) fun _ _ w'' _ => .pure w'' _
  exact h.result_eq

theorem result_loadValue_scalar {oid : Oid} {factory : LoaderFactory} {codec : ScalarLoader}
    (hfactory : (s.registries ctx.registry).loader? oid format = some factory)
    (hrecipe : factory.recipe = .scalar codec) (data : Bytes) :
    (ctx.loadValue oid format data).result s = codec.load data := by
  have h : (start s rfl : World (s.scope ctx)).Gives (ctx.loadValue oid format data)
      (codec.load data) := by
    refine (makes_newTransformer _).gives_bind fun w id _ hid => ?_
    refine (makes_loaderFor w hid.1 hfactory).gives_bind fun w' l _ hl => ?_
    rw [hrecipe] at hl
    cases hl with
    | scalar id codec =>
      rw [Loader.load, Loader.loadWithin_eq]
      exact .action w' _
  exact h.result_eq

/-! ### Arrays -/

/-- An array is dumped as by any dumper of arrays with a trusted cache. -/
theorem gives_dumpArray {sc : Scope} {items : PgArray} {r : Except AdaptError (Bytes × Oid)}
    (h : ∀ (w : World sc) (elements : TransformerId), elements ∈ w.live →
      w.Gives (dumpArrayWith (Dumpable.dumpVia elements format) format
        (Element.mapAll Dumpable.ofValue items)) r)
    (w : World sc) : w.Gives (sc.context.dumpArray format items) r := by
  refine (makes_build_dumper w _ _).gives_bind fun w' d _ hd => ?_
  obtain ⟨hd, -⟩ := hd
  cases hd with
  | @array id format elements helements =>
    rw [← Dumpable.ofElements_eq] at h
    exact h w' elements helements

/-- Bytes are loaded as by any loader that the maker makes. -/
theorem gives_loadWith {sc : Scope} {factory : LoaderFactory} {oid : Oid} {data : Bytes}
    {r : Except AdaptError Value}
    (h : ∀ (w : World sc) (l : Loader), BuiltLoader sc w.live oid factory.recipe l →
      w.Gives (l.load data) r)
    (w : World sc) : w.Gives (sc.context.loadWith factory oid data) r :=
  (makes_build_loader w factory oid).gives_bind fun w' l _ hl => h w' l hl.1

end World

/-! ## Arrays are dumped as their values on their own

A dumper of arrays finds dumpers for the values with a cache that it keeps, and the values of one
array are dumped one after the other, each in the session that the one before has left. None of it
can be seen: an array is dumped by the function that dumps each value on its own, in the session
that one starts with (`PgAdapt.World.result_dumpArray`). From here on arrays can be looked at
without a session. A value may itself be an array, and then it is dumped as that array
(`PgAdapt.World.result_dumpValue_array`).
-/

namespace ArrayBinary

open Element

variable {α β : Type}

theorem flattenEach_map (f : α → β) {leaves : Element α → Flattened α}
    {leaves' : Element β → Flattened β} {items : List (Element α)}
    (h : ∀ item ∈ items, leaves' (item.map f) = (leaves item).map (List.map (Option.map f)) id) :
    flattenEach leaves' (items.map (map f)) =
      (flattenEach leaves items).map (List.map (Option.map f)) id := by
  induction items with
  | nil => rfl
  | cons item items ih =>
    rw [List.forall_mem_cons] at h
    rw [List.map_cons, flattenEach, flattenEach, h.1, ih h.2]
    rcases leaves item with ⟨found, _ | fault⟩
    · simp
    · rfl

/-- Replacing the values replaces the leaves that are listed, and no fault. -/
theorem flatten_mapAll (f : α → β) : ∀ (dims : List Nat) (items : List (Element α)),
    flatten dims (mapAll f items) = (flatten dims items).map (List.map (Option.map f)) id
  | [], items => rfl
  | length :: inner, items => by
    rw [mapAll_eq_map, flatten, flatten, List.length_map]
    split_ifs
    · refine flattenEach_map f fun item _ => ?_
      rcases inner with _ | ⟨next, inner⟩ <;> rcases item with _ | a | below
      iterate 5 rfl
      exact flatten_mapAll f (next :: inner) below
    · rfl

end ArrayBinary

section Array

open ArrayBinary

variable {α β : Type} {m : Type → Type} [Monad m] [MonadExceptOf AdaptError m]

theorem dumpLeaf_comp_map (g : α → β) (dump : β → m (Bytes × Oid)) :
    dumpLeaf dump ∘ Option.map g = dumpLeaf fun a => dump (g a) := by
  funext leaf
  cases leaf <;> rfl

variable [LawfulMonad m]

/-- **An array whose values have been replaced** is dumped as the array, with what replaces a value
in place of the value. -/
theorem dumpArrayWith_mapAll (g : α → β) (dump : β → m (Bytes × Oid)) (format : Format)
    (items : List (Element α)) : dumpArrayWith dump format (Element.mapAll g items) =
      dumpArrayWith (fun a => dump (g a)) format items := by
  cases format with
  | text => simp only [dumpArrayWith, dumpText, Element.traverseAll_mapAll]
  | binary =>
    have hempty : (Element.mapAll g items).isEmpty = items.isEmpty := by
      cases items <;> rfl
    simp only [dumpArrayWith, dumpBinary, hempty, dimensions_mapAll, flatten_mapAll, Prod.map_fst,
      Prod.map_snd, List.mapM_map, dumpLeaf_comp_map, id_eq]

end Array

namespace World

variable {s : Session} {ctx : Context} {format : Format}

/-- By way of a trusted cache, an array is dumped as its values are dumped on their own. -/
theorem gives_dumpArrayWith_alone (w : World (s.scope ctx)) {elements : TransformerId}
    (helements : elements ∈ w.live) (items : PgArray) :
    w.Gives (dumpArrayWith (Dumpable.dumpVia elements format) format
        (Element.mapAll Dumpable.ofValue items))
      (dumpArrayWith (fun v => (ctx.dumpValue format v).result s) format items) := by
  rw [dumpArrayWith_mapAll]
  refine .dumpArrayWith (fun v _ w' hw' => ?_) format
  exact gives_dumpVia_of_dumpValue rfl w' (hw' helements)

/-- **An array is dumped as its values are dumped on their own.** -/
theorem result_dumpArray (s : Session) (ctx : Context) (format : Format) (items : PgArray) :
    (ctx.dumpArray format items).result s =
      dumpArrayWith (fun v => (ctx.dumpValue format v).result s) format items := by
  have hdump : (start s rfl : World (s.scope ctx)).Gives (ctx.dumpArray format items)
      (dumpArrayWith (fun v => (ctx.dumpValue format v).result s) format items) :=
    gives_dumpArray (fun w elements helements => w.gives_dumpArrayWith_alone helements items) _
  exact hdump.result_eq

/-- **A value that is an array is dumped as the array**, in the format of the dumper of arrays that
is registered, and announced as an array of text. -/
theorem result_dumpValue_array {factory : DumperFactory}
    (hfactory : (s.registries ctx.registry).dumper? .array format = some factory)
    {format' : Format} (hrecipe : factory.recipe = .array format') (items : PgArray) :
    (ctx.dumpValue format (.array items)).result s =
      ((ctx.dumpArray format' items).result s).map fun x => (x.1, .textArray) := by
  obtain ⟨r, hr, hvalue⟩ := exists_gives_dumpValue (v := .array items) hfactory
  obtain ⟨d, -, w, -, -, hd, -⟩ :=
    makes_build_dumper (start s rfl : World (s.scope ctx)) factory .array
  have hr := hr w _ d hd
  rw [hrecipe] at hd hvalue
  cases hd with
  | @array id format elements helements =>
    have harray : w.Gives (dumpArrayWith (Dumpable.dumpVia elements format') format'
        (Dumpable.ofElements items))
        (dumpArrayWith (fun v => (ctx.dumpValue format' v).result s) format' items) := by
      rw [Dumpable.ofElements_eq]
      exact w.gives_dumpArrayWith_alone helements items
    have hbytes := harray.bind fun x _ w' _ => .pure w' x.1
    refine hvalue.result_eq.trans ?_
    rw [hr.unique hbytes.result_eq, result_dumpArray]
    rcases dumpArrayWith _ format' items with e | x <;> rfl

end World

end PgAdapt
