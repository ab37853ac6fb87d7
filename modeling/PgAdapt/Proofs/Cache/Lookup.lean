import PgAdapt.Proofs.Registry.History
import PgAdapt.Proofs.Session.Caches
import PgAdapt.Proofs.Session.Lookup

/-!
# Caches of codecs

One lookup finds what is in the cache, or has it made, or leaves the cache as it was
(`PgAdapt.Lookup.looksUp`). Behind a codec of arrays there are more caches, and all of them can be
trusted while the codec is used (`PgAdapt.exists_world_of_used`).
-/

namespace PgAdapt

/-! ## One lookup in a cache

Dumpers are looked up by a type or by a value of it, loaders by a type of the server. All three are
a `PgAdapt.Lookup`, and what matters about it is its key: a lookup finds the codec that the cache
has under the key, or one that is made by the maker that the registry has under the key, or none.
This is `PgAdapt.Lookup.looksUp`; it also says what the lookup leaves behind, which is nothing
unless a codec was made.
-/

/-- A **codec** of either kind. -/
inductive Codec where
  | dumper (d : Dumper)
  | loader (l : Loader)

/-- The number that tells codecs apart. -/
def Codec.id : Codec → Nat
  | .dumper d => d.id
  | .loader l => l.id

/-- The codec under a key of a cache. -/
def Transformer.codec? (cache : Transformer) : Registry.Key → Option Codec
  | .dumper source format => (cache.dumpers.get? (source, format)).map .dumper
  | .loader oid format => (cache.loaders.get? (oid, format)).map .loader

/-- A codec **as it is made** under a key, by the maker that the registry has there and for what the
context shows of the server. -/
inductive Scope.MakesCodec (sc : Scope) : Registry.Key → Codec → Prop where
  | dumper {source : ValueType} {format : Format} {factory : DumperFactory} {d : Dumper}
      (hfactory : sc.registry.dumper? source format = some factory)
      (hbuilt : BuiltDumper sc Set.univ source factory.recipe d) :
      sc.MakesCodec (.dumper source format) (.dumper d)
  | loader {oid : Oid} {format : Format} {factory : LoaderFactory} {l : Loader}
      (hfactory : sc.registry.loader? oid format = some factory)
      (hbuilt : BuiltLoader sc Set.univ oid factory.recipe l) :
      sc.MakesCodec (.loader oid format) (.loader l)

/-! ### Lookups -/

/-- A **lookup** in a cache. -/
inductive Lookup where
  /-- A lookup of the dumper for a type of values. -/
  | ofType (source : ValueType) (format : Format)
  /-- A lookup of the dumper for the type of a value. -/
  | ofValue (v : Value) (format : Format)
  /-- A lookup of the loader for a type of the server. -/
  | ofOid (oid : Oid) (format : Format)

namespace Lookup

/-- The key that is looked up. -/
def key : Lookup → Registry.Key
  | .ofType source format => .dumper source format
  | .ofValue v format => .dumper v.type format
  | .ofOid oid format => .loader oid format

/-- The error of a lookup that finds nothing. -/
def notFound : Lookup → AdaptError
  | .ofType source format => .dumperNotFound source.label format
  | .ofValue _ format => .dumperNotFound ValueType.unnamed format
  | .ofOid oid format => .loaderNotFound oid format

/-- A lookup in a cache. -/
def on (id : TransformerId) : Lookup → Action Codec
  | .ofType source format => .dumper <$> Transformer.dumperFor id source format
  | .ofValue v format => .dumper <$> Transformer.dumperForValueOf id v.type format
  | .ofOid oid format => .loader <$> Transformer.loaderFor id oid format

end Lookup

/-- What is left when a codec has been entered into a cache: the codec is under its key, and all
else is as it was. -/
structure Session.CodecEntered (s : Session) (id : TransformerId) (key : Registry.Key) (c : Codec)
    (s' : Session) : Prop where
  next_lt : s.next < s'.next
  transformers_eq : ∀ id', id'.number < s.next → id' ≠ id →
    s'.transformers id' = s.transformers id'
  context_eq : (s'.transformers id).context = (s.transformers id).context
  codec?_eq : ∀ key', (s'.transformers id).codec? key' =
    if key = key' then some c else (s.transformers id).codec? key'

/-- **What a lookup does** under a key of a cache, given the error for the case that it finds
nothing. -/
inductive LooksUp (id : TransformerId) (key : Registry.Key) (notFound : AdaptError) (s : Session) :
    Except AdaptError Codec → Session → Prop where
  /-- The codec in the cache is found. -/
  | hit {c : Codec} (h : (s.transformers id).codec? key = some c) :
      LooksUp id key notFound s (.ok c) s
  /-- There is no maker, and nothing happens. -/
  | miss (h : (s.transformers id).codec? key = none)
      (hmaker : (s.registries (s.transformers id).context.registry).maker? key = none) :
      LooksUp id key notFound s (.error notFound) s
  /-- A new codec is made and entered into the cache. -/
  | made {c : Codec} {s' : Session} (h : (s.transformers id).codec? key = none)
      (hmakes : (s.scope (s.transformers id).context).MakesCodec key c) (hid : c.id = s.next)
      (hentered : s.CodecEntered id key c s') :
      LooksUp id key notFound s (.ok c) s'

/-! ### The ways a lookup ends -/

section

variable {id : TransformerId} {s s' : Session} {cache : Transformer} {key : Registry.Key}
  {c : Codec}

/-- A codec is entered by replacing the cache after the codec has been made. -/
theorem Session.CodecEntered.of_setTransformer
    (hkept : (Action.fresh.after s).CachesKept s')
    (hcontext : cache.context = (s.transformers id).context)
    (hcodec : ∀ key', cache.codec? key' =
      if key = key' then some c else (s.transformers id).codec? key') :
    s.CodecEntered id key c ((Action.setTransformer id cache).after s') := by
  rw [Action.after_setTransformer]
  constructor
  · exact hkept.next_le
  · intro id' hid hne
    exact (assign_of_ne hne).trans (hkept.transformers_eq id' (Nat.lt_succ_of_lt hid))
  · simpa using hcontext
  · simpa using hcodec

theorem Transformer.codec?_insertDumper (cache : Transformer) (source : ValueType)
    (format : Format) (d : Dumper) (key : Registry.Key) :
    ({ cache with dumpers := cache.dumpers.insert (source, format) d }).codec? key =
      if .dumper source format = key then some (.dumper d) else cache.codec? key := by
  rcases key with ⟨source', format'⟩ | ⟨oid, format'⟩
  · simp only [codec?, Table.get?_insert, Registry.Key.dumper.injEq, Prod.mk.injEq]
    split_ifs <;> rfl
  · rfl

theorem Transformer.codec?_insertLoader (cache : Transformer) (oid : Oid) (format : Format)
    (l : Loader) (key : Registry.Key) :
    ({ cache with loaders := cache.loaders.insert (oid, format) l }).codec? key =
      if .loader oid format = key then some (.loader l) else cache.codec? key := by
  rcases key with ⟨source, format'⟩ | ⟨oid', format'⟩
  · rfl
  · simp only [codec?, Table.get?_insert, Registry.Key.loader.injEq, Prod.mk.injEq]
    split_ifs <;> rfl

end

theorem looksUp_dumperNamed (id : TransformerId) (source : ValueType) (label : String)
    (format : Format) (s : Session) :
    LooksUp id (.dumper source format) (.dumperNotFound label format) s
      ((Codec.dumper <$> Transformer.dumperNamed id source label format).result s)
      ((Codec.dumper <$> Transformer.dumperNamed id source label format).after s) := by
  rw [Action.result_map, Action.after_map, Transformer.dumperNamed,
    Action.result_bind_ok (Action.result_transformer id s),
    Action.after_bind_ok (Action.result_transformer id s), Action.after_transformer]
  cases hget : (s.transformers id).dumpers.get? (source, format) with
  | some d => exact .hit (by simp [Transformer.codec?, hget])
  | none =>
    have hmiss : (s.transformers id).codec? (.dumper source format) = none := by
      simp [Transformer.codec?, hget]
    dsimp only
    rw [Action.result_bind_ok (Action.result_registry _ s),
      Action.after_bind_ok (Action.result_registry _ s), Action.after_registry]
    cases hfactory : (s.registries (s.transformers id).context.registry).dumper? source format with
    | none => exact .miss hmiss (by simp [Registry.maker?, hfactory])
    | some factory =>
      obtain ⟨d, hd, hbuilt⟩ := factory.exists_result_build source (s.transformers id).context s
      dsimp only
      rw [Action.result_bind_ok hd, Action.after_bind_ok hd]
      exact .made hmiss (.dumper hfactory hbuilt) (DumperFactory.id_of_build hd)
        (.of_setTransformer (factory.cachesKept_build ..) rfl
          (Transformer.codec?_insertDumper _ source format d))

theorem looksUp_loaderFor (id : TransformerId) (oid : Oid) (format : Format) (s : Session) :
    LooksUp id (.loader oid format) (.loaderNotFound oid format) s
      ((Codec.loader <$> Transformer.loaderFor id oid format).result s)
      ((Codec.loader <$> Transformer.loaderFor id oid format).after s) := by
  rw [Action.result_map, Action.after_map, Transformer.loaderFor,
    Action.result_bind_ok (Action.result_transformer id s),
    Action.after_bind_ok (Action.result_transformer id s), Action.after_transformer]
  cases hget : (s.transformers id).loaders.get? (oid, format) with
  | some l => exact .hit (by simp [Transformer.codec?, hget])
  | none =>
    have hmiss : (s.transformers id).codec? (.loader oid format) = none := by
      simp [Transformer.codec?, hget]
    dsimp only
    rw [Action.result_bind_ok (Action.result_registry _ s),
      Action.after_bind_ok (Action.result_registry _ s), Action.after_registry]
    cases hfactory : (s.registries (s.transformers id).context.registry).loader? oid format with
    | none => exact .miss hmiss (by simp [Registry.maker?, hfactory])
    | some factory =>
      obtain ⟨l, hl, hbuilt⟩ := factory.exists_result_build oid (s.transformers id).context s
      dsimp only
      rw [Action.result_bind_ok hl, Action.after_bind_ok hl]
      exact .made hmiss (.loader hfactory hbuilt) (LoaderFactory.id_of_build hl)
        (.of_setTransformer (factory.cachesKept_build ..) rfl
          (Transformer.codec?_insertLoader _ oid format l))

/-- **Every lookup** does the same under its key. -/
theorem Lookup.looksUp (lookup : Lookup) (id : TransformerId) (s : Session) :
    LooksUp id lookup.key lookup.notFound s ((lookup.on id).result s) ((lookup.on id).after s) := by
  cases lookup with
  | ofType source format => exact looksUp_dumperNamed id source source.label format s
  | ofValue v format => exact looksUp_dumperNamed id v.type ValueType.unnamed format s
  | ofOid oid format => exact looksUp_loaderFor id oid format s

/-! ## The caches behind an object

A codec of arrays has a cache for the codecs of its elements, and among these there may be codecs of
arrays again. So behind an object there is not one cache but all those that can be reached from it,
`PgAdapt.Session.Reaches`, and they become more while it is used.

An object is **used** by calls through it, while elsewhere anything may happen that neither changes
what the context sees nor touches a cache that the object can reach: `PgAdapt.Used`. What is behind
it can then be trusted all the time (`PgAdapt.exists_world_of_used`). Since what an operation gives
in a world of trusted caches depends on what the context sees only, it gives the same through the
used object as through a new one: `PgAdapt.World.result_eq_of_made`.
-/

/-! ### Caches of codecs -/

/-- The caches that a dumper refers to. -/
def Dumper.caches (d : Dumper) : Set TransformerId :=
  match d.body with
  | .scalar _ => ∅
  | .array elements => {elements}

/-- The caches that a loader refers to. -/
def Loader.caches (l : Loader) : Set TransformerId :=
  match l.body with
  | .scalar _ => ∅
  | .arrayText _ elements => {elements}
  | .arrayBinary elements => {elements}

/-- The caches that a codec refers to. -/
def Codec.caches : Codec → Set TransformerId
  | .dumper d => d.caches
  | .loader l => l.caches

section Built

variable {sc : Scope} {live live' : Set TransformerId}

theorem BuiltDumper.caches_subset {source : ValueType} {recipe : DumperRecipe} {d : Dumper}
    (h : BuiltDumper sc live source recipe d) : d.caches ⊆ live := by
  cases h with
  | scalar id codec => exact Set.empty_subset live
  | array id format helements => exact Set.singleton_subset_iff.mpr helements

/-- A dumper needs no more trusted caches than the ones that it refers to. -/
theorem BuiltDumper.of_caches_subset {source : ValueType} {recipe : DumperRecipe} {d : Dumper}
    (h : BuiltDumper sc live source recipe d) (hsub : d.caches ⊆ live') :
    BuiltDumper sc live' source recipe d := by
  cases h with
  | scalar id codec => exact .scalar id codec
  | array id format _ => exact .array id format (Set.singleton_subset_iff.mp hsub)

theorem BuiltLoader.caches_subset {oid : Oid} {recipe : LoaderRecipe} {l : Loader}
    (h : BuiltLoader sc live oid recipe l) : l.caches ⊆ live := by
  cases h with
  | scalar id codec => exact Set.empty_subset live
  | arrayText id element helements => exact Set.singleton_subset_iff.mpr helements
  | arrayBinary id helements => exact Set.singleton_subset_iff.mpr helements

/-- A loader needs no more trusted caches than the ones that it refers to. -/
theorem BuiltLoader.of_caches_subset {oid : Oid} {recipe : LoaderRecipe} {l : Loader}
    (h : BuiltLoader sc live oid recipe l) (hsub : l.caches ⊆ live') :
    BuiltLoader sc live' oid recipe l := by
  cases h with
  | scalar id codec => exact .scalar id codec
  | arrayText id element _ => exact .arrayText id element (Set.singleton_subset_iff.mp hsub)
  | arrayBinary id _ => exact .arrayBinary id (Set.singleton_subset_iff.mp hsub)

end Built

/-! ### Reaching a cache -/

/-- A cache **can be reached** from given ones: it is one of them, or a codec in a cache that can be
reached refers to it. -/
inductive Session.Reaches (s : Session) (roots : Set TransformerId) : TransformerId → Prop where
  | root {id : TransformerId} (h : id ∈ roots) : s.Reaches roots id
  | inner {id inner : TransformerId} {key : Registry.Key} {c : Codec} (h : s.Reaches roots id)
      (hc : (s.transformers id).codec? key = some c) (hinner : inner ∈ c.caches) :
      s.Reaches roots inner

namespace World

variable {sc : Scope} {roots : Set TransformerId}

/-- What can be reached from trusted caches is trusted. -/
theorem mem_live_of_reaches (w : World sc) (hroots : roots ⊆ w.live) {id : TransformerId}
    (h : w.session.Reaches roots id) : id ∈ w.live := by
  induction h with
  | root h => exact hroots h
  | @inner id inner key c _ hc hinner ih =>
    have hcoherent := w.coherent id ih
    cases key with
    | dumper source format =>
      obtain ⟨d, hd, rfl⟩ := Option.map_eq_some_iff.mp hc
      obtain ⟨factory, -, hbuilt⟩ := hcoherent.dumper hd
      exact hbuilt.caches_subset hinner
    | loader oid format =>
      obtain ⟨l, hl, rfl⟩ := Option.map_eq_some_iff.mp hc
      obtain ⟨factory, -, hbuilt⟩ := hcoherent.loader hl
      exact hbuilt.caches_subset hinner

/-- The world in which only what can be reached is trusted. -/
def reached (w : World sc) (hroots : roots ⊆ w.live) : World sc where
  session := w.session
  live := {id | w.session.Reaches roots id}
  scope_eq := w.scope_eq
  lt_next id hid := w.lt_next id (w.mem_live_of_reaches hroots hid)
  coherent id hid := by
    have hcoherent := w.coherent id (w.mem_live_of_reaches hroots hid)
    refine ⟨hcoherent.context_eq, fun {source format d} hd => ?_, fun {oid format l} hl => ?_⟩
    · obtain ⟨factory, hfactory, hbuilt⟩ := hcoherent.dumper hd
      have hc : (w.session.transformers id).codec? (.dumper source format) = some (.dumper d) :=
        Option.map_eq_some_iff.mpr ⟨d, hd, rfl⟩
      exact ⟨factory, hfactory, hbuilt.of_caches_subset fun inner h => hid.inner hc h⟩
    · obtain ⟨factory, hfactory, hbuilt⟩ := hcoherent.loader hl
      have hc : (w.session.transformers id).codec? (.loader oid format) = some (.loader l) :=
        Option.map_eq_some_iff.mpr ⟨l, hl, rfl⟩
      exact ⟨factory, hfactory, hbuilt.of_caches_subset fun inner h => hid.inner hc h⟩

end World

/-! ### Using an object -/

/-- A session is followed by one in which the context sees the same, and in which the caches that
can be reached from given ones are as they were. -/
structure Undisturbed (ctx : Context) (roots : Set TransformerId) (s s' : Session) : Prop where
  scope_eq : s'.scope ctx = s.scope ctx
  next_le : s.next ≤ s'.next
  transformers_eq : ∀ id, s.Reaches roots id → s'.transformers id = s.transformers id

/-- **An object is used** from a session on, in a context. Given are the caches that the object
refers to, and the session that is left by each call through it. -/
inductive Used {κ : Type} (ctx : Context) (roots : Set TransformerId)
    (call : κ → Session → Session) (s : Session) : Session → Prop where
  /-- The object is new. -/
  | new : Used ctx roots call s s
  /-- After a call through the object, whether it succeeds or fails. -/
  | call {s' : Session} (h : Used ctx roots call s s') (k : κ) : Used ctx roots call s (call k s')
  /-- After something has happened elsewhere. -/
  | elsewhere {s' s'' : Session} (h : Used ctx roots call s s')
      (hs : Undisturbed ctx roots s' s'') : Used ctx roots call s s''

/-- What is behind an object can be trusted all the time, if a call through it goes on to a later
world. -/
theorem exists_world_of_used {κ : Type} {sc : Scope} {roots : Set TransformerId}
    {call : κ → Session → Session}
    (hcall : ∀ (w : World sc) (k : κ), roots ⊆ w.live →
      ∃ w' : World sc, w ≤ w' ∧ w'.session = call k w.session)
    {s s' : Session} (h : Used sc.context roots call s s')
    (hs : ∃ w : World sc, w.session = s ∧ roots ⊆ w.live) :
    ∃ w : World sc, w.session = s' ∧ roots ⊆ w.live := by
  induction h with
  | new => exact hs
  | call _ k ih =>
    obtain ⟨w, rfl, hroots⟩ := ih
    obtain ⟨w', hle, hw'⟩ := hcall w k hroots
    exact ⟨w', hw', hroots.trans hle⟩
  | @elsewhere _ s'' _ hs ih =>
    obtain ⟨w, rfl, hroots⟩ := ih
    -- Beyond what can be reached nothing is known of the caches any more.
    exact ⟨(w.reached hroots).goOn s'' (hs.scope_eq.trans w.scope_eq) hs.next_le
      hs.transformers_eq, rfl, fun id hid => .root hid⟩

/-- **A used object is like a new one** in what is determined by what the context sees. -/
theorem World.result_eq_of_made {ω β : Type} {sc : Scope} (made : Set TransformerId → ω → Prop)
    {make : Action ω} {use : ω → Action β}
    (hmake : ∀ w : World sc, w.Makes make fun w' x => made w'.live x)
    (huse : ∃ r, ∀ (w : World sc) (x : ω), made w.live x → w.Gives (use x) r)
    (w : World sc) {x : ω} (hx : made w.live x) :
    (use x).result w.session = (do use (← make)).result w.session := by
  obtain ⟨r, hr⟩ := huse
  have hnew : w.Gives (do use (← make)) r := (hmake w).gives_bind fun w' x _ hx => hr w' x hx
  rw [hnew.result_eq, (hr w x hx).result_eq]

end PgAdapt
