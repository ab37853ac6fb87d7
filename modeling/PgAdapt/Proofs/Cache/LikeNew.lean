import PgAdapt.Proofs.Cache.Lookup
import PgAdapt.Proofs.Quote
import PgAdapt.Proofs.Session.Running

/-!
# A used object is like a new one

Caches, dumpers and loaders are used by calls: `PgAdapt.Transformer.Call`, `PgAdapt.Dumper.Call`,
and for a loader the bytes that it is given. A call may fill the caches behind the object and may
fail when it has filled some of them; whatever it gives, it goes on to a later world, in which the
caches can still be trusted.

So nothing that can be learned from an object tells how often it has been used before. As long as
the context sees the same registry and the same server, a dump, the dump of an array and a load
give through it what they give through a new object: `PgAdapt.result_eq_new_of_used`.
-/

namespace PgAdapt

/-! ### Calls -/

/-- A session in which the context sees the same and no cache has changed makes a later world. -/
theorem World.exists_later {sc : Scope} (w : World sc) {s : Session}
    (hscope : s.scope sc.context = w.session.scope sc.context) (hnext : s.next = w.session.next)
    (hcaches : s.transformers = w.session.transformers) : ∃ w', w ≤ w' ∧ w'.session = s :=
  ⟨w.goOn s (hscope.trans w.scope_eq) (Nat.le_of_eq hnext.symm) fun _ _ => by rw [hcaches],
    le_refl w.live, rfl⟩

/-- That the routine of a connection has been called is nothing that a context sees. -/
theorem Session.scope_called (s : Session) (id : ConnectionId) (ctx : Context) :
    (s.called id).scope ctx = s.scope ctx := by
  have hserver : (fun id' => if ((s.called id).connections id').held then
      some ((s.called id).connections id').version else none) =
      fun id' => if (s.connections id').held then some (s.connections id').version else none := by
    funext id'
    by_cases h : id' = id
    · subst h
      simp [called]
    · simp [called, assign_of_ne h]
  rw [scope, scope, hserver]
  rfl

/-- Quoting changes nothing that a context sees. -/
theorem World.goes_quoteWith {sc : Scope} (w : World sc) (connection : Option ConnectionId)
    (rules : EscapeRules) (payload : Bytes) : w.Goes (quoteWith connection rules payload) := by
  cases connection with
  | none =>
    rw [quoteWith]
    split
    · exact (Gives.pure w _).goes
    · exact (Gives.throw w _).goes
  | some id =>
    have hends := quoteEnds_quoteWith w.session id rules payload
    rw [Goes]
    generalize (quoteWith (some id) rules payload).result w.session = r,
      (quoteWith (some id) rules payload).after w.session = s at hends ⊢
    cases hends with
    | closed _ => exact w.exists_later rfl rfl rfl
    | refused _ _ _ _ | overlong _ _ _ _ _ | quoted _ _ _ _ _ _ =>
      exact w.exists_later (w.session.scope_called id sc.context) rfl rfl

/-- A **call** through a dumper. -/
inductive Dumper.Call where
  /-- A value is dumped. -/
  | dump (v : Value)
  /-- An array is dumped, for its bytes and its type. -/
  | dumpArray (items : PgArray)
  /-- The literal of a value is built. -/
  | quote (v : Value)

/-- The session after a call through a dumper. -/
def Dumper.Call.after (d : Dumper) : Dumper.Call → Session → Session
  | .dump v => (d.dump v).after
  | .dumpArray items => (d.dumpArray items).after
  | .quote v => (d.quote v).after

/-- A call through a dumper goes on to a later world. -/
theorem World.exists_later_dumperCall {sc : Scope} (w : World sc) {source : ValueType}
    {recipe : DumperRecipe} {d : Dumper} (hd : BuiltDumper sc w.live source recipe d)
    (call : Dumper.Call) : ∃ w', w ≤ w' ∧ w'.session = call.after d w.session := by
  have hdump (v : Value) : w.Goes (d.dump v) := by
    obtain ⟨r, hr⟩ : DeterminesUse sc recipe (·.dump v) := determinesUse_dump v recipe
    exact (hr w source d hd).goes
  cases call with
  | dump v => exact hdump v
  | dumpArray items =>
    obtain ⟨r, hr⟩ : DeterminesUse sc recipe (·.dumpArray items) :=
      determinesUse_dumpArray items recipe
    exact (hr w source d hd).goes
  | quote v =>
    change w.Goes (d.quote v)
    rw [Dumper.quote]
    split
    · exact (Gives.action w _).goes
    · exact (hdump v).bind fun w' payload _ => w'.goes_quoteWith _ _ payload

/-- A call through a loader goes on to a later world. -/
theorem World.goes_load {sc : Scope} (w : World sc) {oid : Oid} {recipe : LoaderRecipe}
    {l : Loader} (hl : BuiltLoader sc w.live oid recipe l) (data : Bytes) :
    w.Goes (l.load data) := by
  obtain ⟨r, hr⟩ : DeterminesLoad sc recipe (·.load data) :=
    determinesLoad Loader.chainLimit data recipe
  exact (hr w oid l hl).goes

/-- A **call** through a cache. -/
inductive Transformer.Call where
  /-- A codec is looked up. -/
  | lookUp (lookup : Lookup)
  /-- A value is dumped. -/
  | dump (v : Value) (format : Format)
  /-- A dumper is looked up and used. -/
  | use (source : ValueType) (format : Format) (call : Dumper.Call)
  /-- Bytes are loaded. -/
  | load (oid : Oid) (format : Format) (data : Bytes)
  /-- Bytes are loaded to a value that must be of a given type. -/
  | loadAs (expected : ValueType) (oid : Oid) (format : Format) (data : Bytes)

/-- The session after a call through a cache. -/
def Transformer.Call.after (id : TransformerId) : Transformer.Call → Session → Session
  | .lookUp lookup, s => (lookup.on id).after s
  | .dump v format, s => (Transformer.dump id v format).after s
  | .use source format call, s =>
    match (Transformer.dumperFor id source format).result s with
    | .ok d => call.after d ((Transformer.dumperFor id source format).after s)
    | .error _ => (Transformer.dumperFor id source format).after s
  | .load oid format data, s => (Transformer.load id oid format data).after s
  | .loadAs expected oid format data, s =>
    (Transformer.loadAs id expected oid format data).after s

/-- The name of the loaders of a maker in messages. -/
def LoaderRecipe.loaderName : LoaderRecipe → String
  | .scalar codec => codec.name
  | .arrayText _ => Loader.arrayName .text
  | .arrayBinary => Loader.arrayName .binary

theorem BuiltLoader.name_eq {sc : Scope} {live : Set TransformerId} {oid : Oid}
    {recipe : LoaderRecipe} {l : Loader} (h : BuiltLoader sc live oid recipe l) :
    l.name = recipe.loaderName := by
  cases h <;> rfl

namespace World

/-- **What a cache makes of a value is determined by what the context sees.** -/
theorem exists_gives_dump (sc : Scope) (v : Value) (format : Format) :
    ∃ r, ∀ (w : World sc) (id : TransformerId), id ∈ w.live →
      w.Gives (Transformer.dump id v format) r := by
  cases hfactory : sc.registry.dumper? v.type format with
  | none =>
    exact ⟨throw (.dumperNotFound v.type.label format), fun w id hid =>
      (gives_dumperNamed_of_none w hid hfactory _).bind_error _⟩
  | some factory =>
    obtain ⟨r, hr⟩ : DeterminesUse sc factory.recipe (·.dump v) :=
      determinesUse_dump v factory.recipe
    exact ⟨r, fun w id hid =>
      (makes_dumperNamed w hid hfactory _).gives_bind fun w' d _ hd => hr w' v.type d hd⟩

/-- **What a cache makes of bytes is determined by what the context sees.** -/
theorem exists_gives_load (sc : Scope) (oid : Oid) (format : Format) (data : Bytes) :
    ∃ r, ∀ (w : World sc) (id : TransformerId), id ∈ w.live →
      w.Gives (Transformer.load id oid format data) r := by
  cases hfactory : sc.registry.loader? oid format with
  | none =>
    exact ⟨throw (.loaderNotFound oid format), fun w id hid =>
      (gives_loaderFor_of_none w hid hfactory).bind_error _⟩
  | some factory =>
    obtain ⟨r, hr⟩ : DeterminesLoad sc factory.recipe (·.load data) :=
      determinesLoad Loader.chainLimit data factory.recipe
    exact ⟨r, fun w id hid =>
      (makes_loaderFor w hid hfactory).gives_bind fun w' l _ hl => hr w' oid l hl⟩

/-- The same with a given type of the value, where the error names the loader. -/
theorem exists_gives_loadAs (sc : Scope) (expected : ValueType) (oid : Oid) (format : Format)
    (data : Bytes) :
    ∃ r, ∀ (w : World sc) (id : TransformerId), id ∈ w.live →
      w.Gives (Transformer.loadAs id expected oid format data) r := by
  cases hfactory : sc.registry.loader? oid format with
  | none =>
    exact ⟨throw (.loaderNotFound oid format), fun w id hid =>
      (gives_loaderFor_of_none w hid hfactory).bind_error _⟩
  | some factory =>
    obtain ⟨r, hr⟩ : DeterminesLoad sc factory.recipe (·.load data) :=
      determinesLoad Loader.chainLimit data factory.recipe
    refine ⟨do
      let v ← r
      if v.type = expected then return v
      throw (.typeMismatch factory.recipe.loaderName expected.label), fun w id hid => ?_⟩
    refine (makes_loaderFor w hid hfactory).gives_bind fun w' l _ hl => ?_
    rw [hl.name_eq]
    refine .bind (hr w' oid l hl) fun v _ w'' _ => ?_
    split_ifs
    · exact .pure w'' v
    · exact .throw w'' _

/-- A lookup goes on to a later world, whether a codec is found or not. -/
theorem goes_dumperNamed {sc : Scope} (w : World sc) {id : TransformerId} (hid : id ∈ w.live)
    (source : ValueType) (label : String) (format : Format) :
    w.Goes (Transformer.dumperNamed id source label format) := by
  cases hfactory : sc.registry.dumper? source format with
  | none => exact (gives_dumperNamed_of_none w hid hfactory label).goes
  | some factory => exact (makes_dumperNamed w hid hfactory label).goes

theorem goes_loaderFor {sc : Scope} (w : World sc) {id : TransformerId} (hid : id ∈ w.live)
    (oid : Oid) (format : Format) : w.Goes (Transformer.loaderFor id oid format) := by
  cases hfactory : sc.registry.loader? oid format with
  | none => exact (gives_loaderFor_of_none w hid hfactory).goes
  | some factory => exact (makes_loaderFor w hid hfactory).goes

/-- A call through a cache goes on to a later world. -/
theorem exists_later_transformerCall {sc : Scope} (w : World sc) {id : TransformerId}
    (hid : id ∈ w.live) (call : Transformer.Call) :
    ∃ w', w ≤ w' ∧ w'.session = call.after id w.session := by
  cases call with
  | lookUp lookup =>
    rw [Transformer.Call.after]
    cases lookup with
    | ofType source format =>
      rw [Lookup.on, Action.after_map]
      exact w.goes_dumperNamed hid source _ format
    | ofValue v format =>
      rw [Lookup.on, Action.after_map]
      exact w.goes_dumperNamed hid v.type _ format
    | ofOid oid format =>
      rw [Lookup.on, Action.after_map]
      exact w.goes_loaderFor hid oid format
  | dump v format =>
    obtain ⟨r, hr⟩ := exists_gives_dump sc v format
    exact (hr w id hid).goes
  | use source format call =>
    rw [Transformer.Call.after]
    cases hfactory : sc.registry.dumper? source format with
    | none =>
      obtain ⟨hresult, hlater⟩ := gives_dumperNamed_of_none w hid hfactory source.label
      rw [Transformer.dumperFor, hresult]
      exact hlater
    | some factory =>
      obtain ⟨d, hresult, w', hle, hw', hd⟩ := makes_dumperNamed w hid hfactory source.label
      obtain ⟨w'', hle', hw''⟩ := w'.exists_later_dumperCall hd call
      rw [Transformer.dumperFor, hresult]
      exact ⟨w'', le_trans hle hle', by rw [hw'', hw']⟩
  | load oid format data =>
    obtain ⟨r, hr⟩ := exists_gives_load sc oid format data
    exact (hr w id hid).goes
  | loadAs expected oid format data =>
    obtain ⟨r, hr⟩ := exists_gives_loadAs sc expected oid format data
    exact (hr w id hid).goes

end World

/-! ### Like a new one -/

section LikeNew

variable {ctx : Context} {s₀ s : Session}

/-- A cache that has been used is among the trusted ones. -/
theorem exists_world_of_used_transformer {id : TransformerId}
    (hnew : (Action.newTransformer ctx).result s₀ = .ok id)
    (hused : Used ctx {id} (Transformer.Call.after id) ((Action.newTransformer ctx).after s₀) s) :
    ∃ w : World (s₀.scope ctx), w.session = s ∧ id ∈ w.live := by
  obtain ⟨id', hid', w, -, hw, hlive, -⟩ :=
    World.makes_newTransformer (World.start s₀ rfl : World (s₀.scope ctx))
  obtain rfl : id' = id := Except.ok.inj (hid'.symm.trans hnew)
  have hcall (w : World (s₀.scope ctx)) (call : Transformer.Call) (h : {id'} ⊆ w.live) :=
    w.exists_later_transformerCall (Set.singleton_subset_iff.mp h) call
  obtain ⟨w, hw, hroots⟩ :=
    exists_world_of_used hcall hused ⟨w, hw, Set.singleton_subset_iff.mpr hlive⟩
  exact ⟨w, hw, Set.singleton_subset_iff.mp hroots⟩

/-- A dumper that has been used is as the maker made it, with its caches among the trusted ones. -/
theorem exists_world_of_used_dumper {factory : DumperFactory} {source : ValueType} {d : Dumper}
    (hnew : (factory.build source ctx).result s₀ = .ok d)
    (hused : Used ctx d.caches (Dumper.Call.after d) ((factory.build source ctx).after s₀) s) :
    ∃ w : World (s₀.scope ctx), w.session = s ∧
      BuiltDumper (s₀.scope ctx) w.live source factory.recipe d := by
  obtain ⟨d', hd', w, -, hw, hbuilt, -⟩ :=
    World.makes_build_dumper (World.start s₀ rfl : World (s₀.scope ctx)) factory source
  obtain rfl : d' = d := Except.ok.inj (hd'.symm.trans hnew)
  have hcall (w : World (s₀.scope ctx)) (call : Dumper.Call) (h : d'.caches ⊆ w.live) :=
    w.exists_later_dumperCall (hbuilt.of_caches_subset h) call
  obtain ⟨w, hw, hroots⟩ := exists_world_of_used hcall hused ⟨w, hw, hbuilt.caches_subset⟩
  exact ⟨w, hw, hbuilt.of_caches_subset hroots⟩

/-- A loader that has been used is as the maker made it, with its caches among the trusted ones. -/
theorem exists_world_of_used_loader {factory : LoaderFactory} {oid : Oid} {l : Loader}
    (hnew : (factory.build oid ctx).result s₀ = .ok l)
    (hused : Used ctx l.caches (fun data => (l.load data).after)
      ((factory.build oid ctx).after s₀) s) :
    ∃ w : World (s₀.scope ctx), w.session = s ∧
      BuiltLoader (s₀.scope ctx) w.live oid factory.recipe l := by
  obtain ⟨l', hl', w, -, hw, hbuilt, -⟩ :=
    World.makes_build_loader (World.start s₀ rfl : World (s₀.scope ctx)) factory oid
  obtain rfl : l' = l := Except.ok.inj (hl'.symm.trans hnew)
  have hcall (w : World (s₀.scope ctx)) (data : Bytes) (h : l'.caches ⊆ w.live) :=
    w.goes_load (hbuilt.of_caches_subset h) data
  obtain ⟨w, hw, hroots⟩ := exists_world_of_used hcall hused ⟨w, hw, hbuilt.caches_subset⟩
  exact ⟨w, hw, hbuilt.of_caches_subset hroots⟩

/-- A used cache is like a new one, for what is determined by what the context sees. -/
theorem result_use_transformer {id : TransformerId}
    (hnew : (Action.newTransformer ctx).result s₀ = .ok id)
    (hused : Used ctx {id} (Transformer.Call.after id) ((Action.newTransformer ctx).after s₀) s)
    {β : Type} {use : TransformerId → Action β}
    (huse : ∃ r, ∀ (w : World (s₀.scope ctx)) (id : TransformerId), id ∈ w.live →
      w.Gives (use id) r) :
    (use id).result s = (do use (← Action.newTransformer ctx)).result s := by
  obtain ⟨w, rfl, hid⟩ := exists_world_of_used_transformer hnew hused
  have hmake (w : World (s₀.scope ctx)) :
      w.Makes (Action.newTransformer ctx) fun w' id => id ∈ w'.live :=
    w.makes_newTransformer.mono fun _ _ h => h.1
  exact World.result_eq_of_made (fun live id => id ∈ live) hmake huse w hid

/-- A used dumper is like a new one, for what is determined by what the context sees. -/
theorem result_use_dumper {factory : DumperFactory} {source : ValueType} {d : Dumper}
    (hnew : (factory.build source ctx).result s₀ = .ok d)
    (hused : Used ctx d.caches (Dumper.Call.after d) ((factory.build source ctx).after s₀) s)
    {β : Type} {use : Dumper → Action β}
    (huse : World.DeterminesUse (s₀.scope ctx) factory.recipe use) :
    (use d).result s = (do use (← factory.build source ctx)).result s := by
  obtain ⟨w, rfl, hbuilt⟩ := exists_world_of_used_dumper hnew hused
  have hmake (w : World (s₀.scope ctx)) : w.Makes (factory.build source ctx) fun w' d =>
      BuiltDumper (s₀.scope ctx) w'.live source factory.recipe d :=
    (w.makes_build_dumper factory source).mono fun _ _ h => h.1
  obtain ⟨r, hr⟩ := huse
  exact World.result_eq_of_made
    (fun live d => BuiltDumper (s₀.scope ctx) live source factory.recipe d) hmake
    ⟨r, fun w d hd => hr w source d hd⟩ w hbuilt

/-- A used loader is like a new one, for what is determined by what the context sees. -/
theorem result_use_loader {factory : LoaderFactory} {oid : Oid} {l : Loader}
    (hnew : (factory.build oid ctx).result s₀ = .ok l)
    (hused : Used ctx l.caches (fun data => (l.load data).after)
      ((factory.build oid ctx).after s₀) s)
    {use : Loader → Action Value}
    (huse : World.DeterminesLoad (s₀.scope ctx) factory.recipe use) :
    (use l).result s = (do use (← factory.build oid ctx)).result s := by
  obtain ⟨w, rfl, hbuilt⟩ := exists_world_of_used_loader hnew hused
  have hmake (w : World (s₀.scope ctx)) : w.Makes (factory.build oid ctx) fun w' l =>
      BuiltLoader (s₀.scope ctx) w'.live oid factory.recipe l :=
    (w.makes_build_loader factory oid).mono fun _ _ h => h.1
  obtain ⟨r, hr⟩ := huse
  exact World.result_eq_of_made
    (fun live l => BuiltLoader (s₀.scope ctx) live oid factory.recipe l) hmake
    ⟨r, fun w l hl => hr w oid l hl⟩ w hbuilt

end LikeNew

/-- **A used object is like a new one**: a cache for the dumps and loads through it, a dumper for
the values and arrays that it dumps, and a loader for the bytes that it loads. Each gives what a new
one gives, the same bytes and the same type, the same value, or the same error, after any use of
it. -/
theorem result_eq_new_of_used (ctx : Context) (s₀ s : Session) :
    (∀ id, (Action.newTransformer ctx).result s₀ = .ok id →
      Used ctx {id} (Transformer.Call.after id) ((Action.newTransformer ctx).after s₀) s →
      (∀ v format, (Transformer.dump id v format).result s =
        (do Transformer.dump (← Action.newTransformer ctx) v format).result s) ∧
      (∀ oid format data, (Transformer.load id oid format data).result s =
        (do Transformer.load (← Action.newTransformer ctx) oid format data).result s) ∧
      ∀ expected oid format data, (Transformer.loadAs id expected oid format data).result s =
        (do Transformer.loadAs (← Action.newTransformer ctx) expected oid format data).result s) ∧
    (∀ (factory : DumperFactory) (source : ValueType) (d : Dumper),
      (factory.build source ctx).result s₀ = .ok d →
      Used ctx d.caches (Dumper.Call.after d) ((factory.build source ctx).after s₀) s →
      (∀ v, (d.dump v).result s = (do (← factory.build source ctx).dump v).result s) ∧
      ∀ items, (d.dumpArray items).result s =
        (do (← factory.build source ctx).dumpArray items).result s) ∧
    ∀ (factory : LoaderFactory) (oid : Oid) (l : Loader),
      (factory.build oid ctx).result s₀ = .ok l →
      Used ctx l.caches (fun data => (l.load data).after) ((factory.build oid ctx).after s₀) s →
      ∀ data, (l.load data).result s = (do (← factory.build oid ctx).load data).result s := by
  refine ⟨fun id hnew hused => ⟨fun v format => ?_, fun oid format data => ?_,
    fun expected oid format data => ?_⟩, fun factory source d hnew hused =>
    ⟨fun v => ?_, fun items => ?_⟩, fun factory oid l hnew hused data => ?_⟩
  · exact result_use_transformer hnew hused (World.exists_gives_dump _ v format)
  · exact result_use_transformer hnew hused (World.exists_gives_load _ oid format data)
  · exact result_use_transformer hnew hused (World.exists_gives_loadAs _ expected oid format data)
  · exact result_use_dumper hnew hused (World.determinesUse_dump v factory.recipe)
  · exact result_use_dumper hnew hused (World.determinesUse_dumpArray items factory.recipe)
  · exact result_use_loader hnew hused
      (World.determinesLoad Loader.chainLimit data factory.recipe)

/-- A session with a maker for strings of bytes only. -/
def bytesOnlySession : Session where
  registries _ := Registry.empty.addDumper .blob .text verbatimMaker

/-- The maker of the dumpers of arrays in text. -/
def arrayTextMaker : DumperFactory where
  id := 0
  name := Dumper.arrayName .text
  recipe := .array .text

/-- A dumper of arrays after an array that was refused at its second value, when a maker for this
value has been registered elsewhere. -/
theorem result_eq_new_of_used_refused :
    ∃ d, (arrayTextMaker.build .array {}).result bytesOnlySession = .ok d ∧
      let start := (arrayTextMaker.build .array {}).after bytesOnlySession
      let refused := Dumper.Call.dumpArray [.value (.blob [97]), .value (.bool true)]
      let s := (Action.registerDumper (.separate 5) .bool .text verbatimMaker).after
        (refused.after d start)
      Used {} d.caches (Dumper.Call.after d) start s ∧
        (d.dumpArray [.value (.blob [97]), .value (.bool true)]).result start =
          .error (.dumperNotFound ValueType.unnamed .text) ∧
        (d.dumpArray [.value (.blob [98])]).result s =
          (do (← arrayTextMaker.build .array {}).dumpArray [.value (.blob [98])]).result s ∧
        (d.dumpArray [.value (.blob [98])]).result s =
          .ok (Bytes.ascii ['{', 'b', '}'], .textArray) := by
  obtain ⟨d, hd, -⟩ := arrayTextMaker.exists_result_build .array {} bytesOnlySession
  refine ⟨d, hd, ?_⟩
  intro start refused s
  have hused : Used {} d.caches (Dumper.Call.after d) start s :=
    .elsewhere (.call .new refused) ⟨rfl, Nat.le_refl _, fun _ _ => rfl⟩
  have hnew := (result_eq_new_of_used {} bytesOnlySession s).2.1 arrayTextMaker .array d hd hused
  cases hd
  exact ⟨hused, rfl, hnew.2 _, rfl⟩

end PgAdapt
