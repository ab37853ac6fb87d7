import Mathlib.Data.Set.Insert
import Mathlib.Order.Defs.PartialOrder
import Mathlib.Tactic.SplitIfs
import PgAdapt.Proofs.Action
import PgAdapt.Proofs.Element
import PgAdapt.Transformer

/-!
# Worlds

A **world** is a session with caches that can be trusted. Operations that look for codecs lead from
one world to a later one, and what they give can be computed without the session.
-/

namespace PgAdapt

/-! ## Sessions whose caches can be trusted

What a codec does depends on very little of a session: on the registry that its context looks
into, and on the version of the server if the connection of the context is still held. That is a
`PgAdapt.Scope`. The rest – numbers, events, caches – grows with every operation, and the caches
are the delicate part: a codec that was made earlier may be handed out again, and it has a cache
of its own.

A `PgAdapt.World` is a session together with a set of caches that can be trusted: all of them
belong to the context, and whatever is in them has been made by the maker that the registry would
name now (`PgAdapt.Coherent`). The set is closed in the sense that the codecs of arrays in a
trusted cache have trusted caches themselves. Worlds are ordered by their trusted caches; an
operation that looks for codecs leads from a world to a later one.
-/

/-! ### What can be seen from a context -/

/-- **What can be seen from a context** in a session. -/
structure Scope where
  /-- The context. -/
  context : Context
  /-- The registry that the context looks into. -/
  registry : Registry
  /-- The version of the server, if the connection of the context is still held. -/
  server? : Option Int

/-- What a session shows of itself to a context. -/
def Session.scope (s : Session) (ctx : Context) : Scope where
  context := ctx
  registry := s.registries ctx.registry
  server? := ctx.connection.bind fun id =>
    if (s.connections id).held then some (s.connections id).version else none

/-- The type that a dumper announces. -/
def Scope.announced (sc : Scope) (oid : Oid) : Oid :=
  match sc.server? with
  | none => oid
  | some version =>
    if oid.isUnspecified ∧ version < sc.context.config.legacy.cutoff then .text else oid

theorem Scope.announced_of_isUnspecified_false (sc : Scope) {oid : Oid}
    (h : oid.isUnspecified = false) : sc.announced oid = oid := by
  rw [Scope.announced]
  split
  · rfl
  · rw [if_neg (by simp [h])]

/-- At most a type that is left open is announced as another one, as text. -/
theorem Scope.announced_eq_or_eq_text (sc : Scope) (oid : Oid) :
    sc.announced oid = oid ∨ sc.announced oid = .text := by
  rw [Scope.announced]
  split
  · exact .inl rfl
  · split_ifs
    · exact .inr rfl
    · exact .inl rfl

/-- The announced type depends on what the context sees, and at most an event is reported on the
way. -/
theorem Context.announced_eq (s : Session) (ctx : Context) (oid : Oid) :
    (ctx.announced oid).result s = .ok ((s.scope ctx).announced oid) ∧
      ∃ events, (ctx.announced oid).after s = { s with events } := by
  cases hopen : oid.isUnspecified with
  | false =>
    rw [Scope.announced_of_isUnspecified_false _ hopen, announced, hopen]
    exact ⟨rfl, s.events, rfl⟩
  | true =>
    -- Only the type that is left open is replaced, and only for an old server that is still there.
    rcases hconnection : ctx.connection with _ | id
    · refine ⟨?_, s.events, ?_⟩ <;>
        simp [announced, liveConnection?, hopen, hconnection, Scope.announced, Session.scope]
    · cases hheld : (s.connections id).held with
      | false =>
        refine ⟨?_, s.events, ?_⟩ <;>
          simp [announced, liveConnection?, hopen, hconnection, hheld, Scope.announced,
            Session.scope, Action.result_bind, Action.after_bind]
      | true =>
        by_cases hold : (s.connections id).version < ctx.config.legacy.cutoff
        · refine ⟨?_, s.events ++ [.openTypeForced (s.connections id).version], ?_⟩ <;>
            simp [announced, liveConnection?, hopen, hconnection, hheld, hold, Scope.announced,
              Session.scope, Action.result_bind, Action.after_bind, Except.map]
        · refine ⟨?_, s.events, ?_⟩ <;>
            simp [announced, liveConnection?, hopen, hconnection, hheld, hold, Scope.announced,
              Session.scope, Action.result_bind, Action.after_bind]

/-! ### Codecs as the makers make them -/

/-- A **dumper** that a maker with a given recipe makes for a type of values, its cache among the
trusted ones. -/
inductive BuiltDumper (sc : Scope) (live : Set TransformerId) (source : ValueType) :
    DumperRecipe → Dumper → Prop where
  /-- A dumper of single values. -/
  | scalar (id : Nat) (codec : ScalarDumper) :
      BuiltDumper sc live source (.scalar codec)
        { id, source, format := codec.format, oid := sc.announced codec.oid,
          connection := sc.context.connection, escape := sc.context.config.escape,
          body := .scalar codec }
  /-- A dumper of arrays. -/
  | array (id : Nat) (format : Format) {elements : TransformerId} (h : elements ∈ live) :
      BuiltDumper sc live source (.array format)
        { id, source, format, oid := .textArray, connection := sc.context.connection,
          escape := sc.context.config.escape, body := .array elements }

/-- A **loader** that a maker with a given recipe makes for a type of the server, its cache among
the trusted ones. -/
inductive BuiltLoader (sc : Scope) (live : Set TransformerId) (oid : Oid) :
    LoaderRecipe → Loader → Prop where
  /-- A loader of single values. -/
  | scalar (id : Nat) (codec : ScalarLoader) :
      BuiltLoader sc live oid (.scalar codec)
        { id, oid, format := codec.format, connection := sc.context.connection,
          body := .scalar codec }
  /-- A loader of arrays in text. -/
  | arrayText (id : Nat) (element : Oid) {elements : TransformerId} (h : elements ∈ live) :
      BuiltLoader sc live oid (.arrayText element)
        { id, oid, format := .text, connection := sc.context.connection,
          body := .arrayText element elements }
  /-- A loader of binary arrays. -/
  | arrayBinary (id : Nat) {elements : TransformerId} (h : elements ∈ live) :
      BuiltLoader sc live oid .arrayBinary
        { id, oid, format := .binary, connection := sc.context.connection,
          body := .arrayBinary elements }

/-- The type that the dumpers of a maker announce, given what the context shows of the server. -/
def DumperRecipe.announced (sc : Scope) : DumperRecipe → Oid
  | .scalar codec => sc.announced codec.oid
  | .array _ => .textArray

theorem BuiltDumper.oid_eq {sc : Scope} {live : Set TransformerId} {source : ValueType}
    {recipe : DumperRecipe} {d : Dumper} (h : BuiltDumper sc live source recipe d) :
    d.oid = recipe.announced sc := by
  cases h <;> rfl

section Mono

variable {sc : Scope} {live live' : Set TransformerId} (h : live ⊆ live')

include h

theorem BuiltDumper.mono {source : ValueType} {recipe : DumperRecipe} {d : Dumper}
    (hd : BuiltDumper sc live source recipe d) : BuiltDumper sc live' source recipe d := by
  cases hd with
  | scalar id codec => exact .scalar id codec
  | array id format helements => exact .array id format (h helements)

theorem BuiltLoader.mono {oid : Oid} {recipe : LoaderRecipe} {l : Loader}
    (hl : BuiltLoader sc live oid recipe l) : BuiltLoader sc live' oid recipe l := by
  cases hl with
  | scalar id codec => exact .scalar id codec
  | arrayText id element helements => exact .arrayText id element (h helements)
  | arrayBinary id helements => exact .arrayBinary id (h helements)

end Mono

/-- **A cache can be trusted** if it belongs to the context, and everything in it has been made by
the maker that the registry names. -/
structure Coherent (sc : Scope) (live : Set TransformerId) (cache : Transformer) : Prop where
  context_eq : cache.context = sc.context
  dumper : ∀ {source format d}, cache.dumpers.get? (source, format) = some d →
    ∃ factory, sc.registry.dumper? source format = some factory ∧
      BuiltDumper sc live source factory.recipe d
  loader : ∀ {oid format l}, cache.loaders.get? (oid, format) = some l →
    ∃ factory, sc.registry.loader? oid format = some factory ∧
      BuiltLoader sc live oid factory.recipe l

namespace Coherent

variable {sc : Scope} {live live' : Set TransformerId} {cache : Transformer}

theorem mono (hc : Coherent sc live cache) (h : live ⊆ live') : Coherent sc live' cache where
  context_eq := hc.context_eq
  dumper hd := by
    obtain ⟨factory, hfactory, hbuilt⟩ := hc.dumper hd
    exact ⟨factory, hfactory, hbuilt.mono h⟩
  loader hl := by
    obtain ⟨factory, hfactory, hbuilt⟩ := hc.loader hl
    exact ⟨factory, hfactory, hbuilt.mono h⟩

/-- A new cache can be trusted. -/
theorem new (sc : Scope) (live : Set TransformerId) :
    Coherent sc live { context := sc.context } where
  context_eq := rfl
  dumper hd := by cases hd
  loader hl := by cases hl

/-- A cache can still be trusted when a dumper is entered that the right maker has made. -/
theorem insertDumper (hc : Coherent sc live cache) {source : ValueType} {format : Format}
    {factory : DumperFactory} (hfactory : sc.registry.dumper? source format = some factory)
    {d : Dumper} (hd : BuiltDumper sc live source factory.recipe d) :
    Coherent sc live { cache with dumpers := cache.dumpers.insert (source, format) d } where
  context_eq := hc.context_eq
  dumper {source' format' d'} h := by
    rw [Table.get?_insert] at h
    split_ifs at h with hkey
    · cases hkey
      cases h
      exact ⟨factory, hfactory, hd⟩
    · exact hc.dumper h
  loader h := hc.loader h

/-- A cache can still be trusted when a loader is entered that the right maker has made. -/
theorem insertLoader (hc : Coherent sc live cache) {oid : Oid} {format : Format}
    {factory : LoaderFactory} (hfactory : sc.registry.loader? oid format = some factory)
    {l : Loader} (hl : BuiltLoader sc live oid factory.recipe l) :
    Coherent sc live { cache with loaders := cache.loaders.insert (oid, format) l } where
  context_eq := hc.context_eq
  dumper h := hc.dumper h
  loader {oid' format' l'} h := by
    rw [Table.get?_insert] at h
    split_ifs at h with hkey
    · cases hkey
      cases h
      exact ⟨factory, hfactory, hl⟩
    · exact hc.loader h

end Coherent

/-! ### Worlds -/

/-- A **world**: a session that shows a context a given view, with a set of caches that can be
trusted. -/
structure World (sc : Scope) where
  /-- The session. -/
  session : Session
  /-- The caches that can be trusted. -/
  live : Set TransformerId
  scope_eq : session.scope sc.context = sc
  lt_next : ∀ id ∈ live, id.number < session.next
  coherent : ∀ id ∈ live, Coherent sc live (session.transformers id)

namespace World

variable {sc : Scope}

/-- A world is **later** than another if the caches that could be trusted still can. -/
instance : Preorder (World sc) where
  le w w' := w.live ⊆ w'.live
  le_refl w := Set.Subset.refl w.live
  le_trans _ _ _ := Set.Subset.trans

/-- Any session that shows the context the view is a world in which no cache is trusted yet. -/
def start (s : Session) (h : s.scope sc.context = sc) : World sc where
  session := s
  live := ∅
  scope_eq := h
  lt_next := by simp
  coherent := by simp

/-- The world goes on with a session that leaves the view and the trusted caches as they are. -/
def goOn (w : World sc) (s : Session) (hscope : s.scope sc.context = sc)
    (hnext : w.session.next ≤ s.next)
    (hkeep : ∀ id ∈ w.live, s.transformers id = w.session.transformers id) : World sc where
  session := s
  live := w.live
  scope_eq := hscope
  lt_next id hid := Nat.lt_of_lt_of_le (w.lt_next id hid) hnext
  coherent id hid := by
    rw [hkeep id hid]
    exact w.coherent id hid

/-- The next number has not been given to a trusted cache. -/
theorem ne_next (w : World sc) {id : TransformerId} (hid : id ∈ w.live) :
    id ≠ ⟨w.session.next⟩ := by
  rintro rfl
  exact absurd (w.lt_next _ hid) (Nat.lt_irrefl _)

/-- The world with a new cache, which is trusted from now on. -/
def openCache (w : World sc) : World sc where
  session := (Action.newTransformer sc.context).after w.session
  live := insert ⟨w.session.next⟩ w.live
  scope_eq := w.scope_eq
  lt_next := by
    rintro id (rfl | hid)
    · exact Nat.lt_succ_self _
    · exact Nat.lt_succ_of_lt (w.lt_next id hid)
  coherent := by
    rintro id (rfl | hid)
    · rw [Action.after_newTransformer]
      simp only [assign_self]
      exact .new sc _
    · rw [Action.after_newTransformer]
      simp only [assign_of_ne (w.ne_next hid)]
      exact (w.coherent id hid).mono (Set.subset_insert _ _)

theorem le_openCache (w : World sc) : w ≤ w.openCache := Set.subset_insert _ _

theorem mem_live_openCache (w : World sc) : ⟨w.session.next⟩ ∈ w.openCache.live :=
  Set.mem_insert _ _

/-- The world with a cache replaced by one that can be trusted. -/
def setCache (w : World sc) (id : TransformerId) (cache : Transformer)
    (hcache : Coherent sc w.live cache) : World sc where
  session := (Action.setTransformer id cache).after w.session
  live := w.live
  scope_eq := w.scope_eq
  lt_next := w.lt_next
  coherent id' hid := by
    rw [Action.after_setTransformer]
    simp only [assign]
    split_ifs with h
    · exact hcache
    · exact w.coherent id' hid

end World

/-! ## Operations that go on to a later world

`PgAdapt.World.Gives` says what an operation gives in a world, and that it leaves a later one.
What it gives is an `Except`, so a chain of operations gives what the chain of their results gives
(`PgAdapt.World.Gives.bind`), and going through an array with an operation gives what going
through it with a function gives (`PgAdapt.World.Gives.traverseAll`). In this way whatever is
written for any monad with errors can be computed without a session.

A codec that an operation finds is not the same in every session, since it has a number and may
have a cache. `PgAdapt.World.Makes` only says what is known of it.
-/

namespace World

variable {sc : Scope} {α β : Type}

/-- **What an operation gives in a world**, when it leaves a later one. -/
def Gives (w : World sc) (a : Action α) (r : Except AdaptError α) : Prop :=
  a.result w.session = r ∧ ∃ w', w ≤ w' ∧ w'.session = a.after w.session

/-- **What is known of the thing that an operation makes**, when it leaves a later world. -/
def Makes (w : World sc) (a : Action α) (p : World sc → α → Prop) : Prop :=
  ∃ x, a.result w.session = .ok x ∧ ∃ w', w ≤ w' ∧ w'.session = a.after w.session ∧ p w' x

/-! ### Chains of operations -/

namespace Gives

variable {w : World sc}

theorem pure (w : World sc) (x : α) : w.Gives (Pure.pure x) (Pure.pure x) :=
  ⟨rfl, w, le_refl w, rfl⟩

theorem throw (w : World sc) (e : AdaptError) :
    w.Gives (MonadExcept.throw e : Action α) (MonadExcept.throw e) := ⟨rfl, w, le_refl w, rfl⟩

theorem ofExcept (w : World sc) (x : Except AdaptError α) :
    w.Gives (MonadExcept.ofExcept x) (MonadExcept.ofExcept x) := by
  cases x with
  | error e => exact throw w e
  | ok x => exact pure w x

theorem action (w : World sc) (x : Except AdaptError α) : w.Gives (Action.ofExcept x) x := by
  cases x with
  | error e => exact throw w e
  | ok x => exact pure w x

/-- **A chain of operations gives what the chain of their results gives.** -/
theorem bind {a : Action α} {r : Except AdaptError α} {f : α → Action β}
    {q : α → Except AdaptError β} (ha : w.Gives a r)
    (hf : ∀ x, r = .ok x → ∀ w', w ≤ w' → w'.Gives (f x) (q x)) :
    w.Gives (a >>= f) (r >>= q) := by
  obtain ⟨hr, w', hle, hw'⟩ := ha
  cases r with
  | error e =>
    exact ⟨by rw [Action.result_bind, hr]; rfl, w', hle, by rw [Action.after_bind, hr, hw']⟩
  | ok x =>
    obtain ⟨hq, w'', hle', hw''⟩ := hf x rfl w' hle
    rw [hw'] at hq hw''
    exact ⟨by rw [Action.result_bind_ok hr, hq]; rfl, w'', le_trans hle hle',
      by rw [Action.after_bind_ok hr, hw'']⟩

/-- A chain of operations ends with the first error. -/
theorem bind_error {a : Action α} {e : AdaptError} (ha : w.Gives a (MonadExcept.throw e))
    (f : α → Action β) : w.Gives (a >>= f) (MonadExcept.throw e) :=
  ha.bind (q := fun _ => MonadExcept.throw e) fun _ hx => by cases hx

/-- What an operation gives in a world is what it gives there. -/
theorem result_eq {a : Action α} {r : Except AdaptError α} (h : w.Gives a r) :
    a.result w.session = r := h.1

/-- What the context sees is the same afterwards. -/
theorem scope_after {a : Action α} {r : Except AdaptError α} (h : w.Gives a r) :
    (a.after w.session).scope sc.context = sc := by
  obtain ⟨-, w', -, hw'⟩ := h
  rw [← hw']
  exact w'.scope_eq

/-- An operation gives one thing only. -/
theorem unique {a : Action α} {r q : Except AdaptError α} (h : w.Gives a r)
    (h' : a.result w.session = q) : r = q := h.1.symm.trans h'

end Gives

/-- A chain of operations makes what the last one makes. -/
theorem Makes.bind {w : World sc} {a : Action α} {p : World sc → α → Prop} {f : α → Action β}
    {q : World sc → β → Prop} (ha : w.Makes a p)
    (hf : ∀ w' x, w ≤ w' → p w' x → w'.Makes (f x) q) : w.Makes (a >>= f) q := by
  obtain ⟨x, hx, w', hle, hw', hp⟩ := ha
  obtain ⟨y, hy, w'', hle', hw'', hq⟩ := hf w' x hle hp
  rw [hw'] at hy hw''
  exact ⟨y, by rw [Action.result_bind_ok hx, hy], w'', le_trans hle hle',
    by rw [Action.after_bind_ok hx, hw''], hq⟩

theorem Makes.pure {w : World sc} {p : World sc → α → Prop} {x : α} (h : p w x) :
    w.Makes (Pure.pure x) p := ⟨x, rfl, w, le_refl w, rfl, h⟩

/-- A chain of operations, of which the first one makes something. -/
theorem Makes.gives_bind {w : World sc} {a : Action α} {p : World sc → α → Prop}
    {f : α → Action β} {r : Except AdaptError β} (ha : w.Makes a p)
    (hf : ∀ w' x, w ≤ w' → p w' x → w'.Gives (f x) r) : w.Gives (a >>= f) r := by
  obtain ⟨x, hx, w', hle, hw', hp⟩ := ha
  obtain ⟨hr, w'', hle', hw''⟩ := hf w' x hle hp
  rw [hw'] at hr hw''
  exact ⟨by rw [Action.result_bind_ok hx, hr], w'', le_trans hle hle',
    by rw [Action.after_bind_ok hx, hw'']⟩

theorem Makes.mono {w : World sc} {a : Action α} {p q : World sc → α → Prop} (h : w.Makes a p)
    (hpq : ∀ w' x, p w' x → q w' x) : w.Makes a q := by
  obtain ⟨x, hx, w', hle, hw', hp⟩ := h
  exact ⟨x, hx, w', hle, hw', hpq w' x hp⟩

/-! ### Going on, whatever comes of it -/

section Goes

variable {w : World sc} {a : Action α}

/-- An operation **goes on** to a later world, whatever it gives. -/
def Goes (w : World sc) (a : Action α) : Prop := ∃ w', w ≤ w' ∧ w'.session = a.after w.session

theorem Gives.goes {r : Except AdaptError α} (h : w.Gives a r) : w.Goes a := h.2

theorem Makes.goes {p : World sc → α → Prop} (h : w.Makes a p) : w.Goes a := by
  obtain ⟨x, -, w', hle, hw', -⟩ := h
  exact ⟨w', hle, hw'⟩

/-- A chain of operations goes on if its members do. -/
theorem Goes.bind {f : α → Action β} (ha : w.Goes a) (hf : ∀ w' x, w ≤ w' → w'.Goes (f x)) :
    w.Goes (a >>= f) := by
  obtain ⟨w', hle, hw'⟩ := ha
  rw [Goes, Action.after_bind]
  split
  · rename_i x _
    obtain ⟨w'', hle', hw''⟩ := hf w' x hle
    exact ⟨w'', le_trans hle hle', hw' ▸ hw''⟩
  · exact ⟨w', hle, hw'⟩

end Goes

/-! ### Going through arrays and lists -/

section Traverse

variable {f : α → Action β} {g : α → Except AdaptError β}

/-- **Going through an array with an operation** gives what going through it with a function
gives. -/
theorem Gives.traverseAll : ∀ (items : List (Element α)) (w : World sc),
    (∀ a ∈ Element.valuesAll items, ∀ w', w ≤ w' → w'.Gives (f a) (g a)) →
      w.Gives (Element.traverseAll f items) (Element.traverseAll g items)
  | [], w, _ => .pure w []
  | .null :: items, w, h => by
    rw [Element.traverseAll, Element.traverseAll, Element.traverse, Element.traverse]
    refine .bind (.pure w _) fun item _ w' hw' => ?_
    refine .bind (Gives.traverseAll items w' fun a ha w'' hw'' => ?_) fun _ _ _ _ => .pure _ _
    exact h a (by simpa using ha) w'' (le_trans hw' hw'')
  | .value a :: items, w, h => by
    simp only [Element.valuesAll_value_cons, List.forall_mem_cons] at h
    rw [Element.traverseAll, Element.traverseAll, Element.traverse, Element.traverse]
    refine .bind (.bind (h.1 w (le_refl w)) fun _ _ _ _ => .pure _ _) fun item _ w' hw' => ?_
    refine .bind (Gives.traverseAll items w' fun a ha w'' hw'' => ?_) fun _ _ _ _ => .pure _ _
    exact h.2 a ha w'' (le_trans hw' hw'')
  | .array inner :: items, w, h => by
    simp only [Element.valuesAll_array_cons, List.forall_mem_append] at h
    rw [Element.traverseAll, Element.traverseAll, Element.traverse, Element.traverse]
    refine .bind (.bind (Gives.traverseAll inner w h.1) fun _ _ _ _ => .pure _ _)
      fun item _ w' hw' => ?_
    refine .bind (Gives.traverseAll items w' fun a ha w'' hw'' => ?_) fun _ _ _ _ => .pure _ _
    exact h.2 a ha w'' (le_trans hw' hw'')

/-- Going through a list with an operation gives what going through it with a function gives. -/
theorem Gives.mapM (l : List α) : ∀ w : World sc,
    (∀ a ∈ l, ∀ w', w ≤ w' → w'.Gives (f a) (g a)) → w.Gives (l.mapM f) (l.mapM g) := by
  induction l with
  | nil => intro w _; exact .pure w []
  | cons a l ih =>
    intro w h
    rw [List.forall_mem_cons] at h
    rw [List.mapM_cons, List.mapM_cons]
    refine .bind (h.1 w (le_refl w)) fun b _ w' hw' => ?_
    refine .bind (ih w' fun a ha w'' hw'' => ?_) fun _ _ _ _ => .pure _ _
    exact h.2 a ha w'' (le_trans hw' hw'')

end Traverse

/-- Doing something for each member of a list gives what doing it without a session gives. -/
theorem Gives.forM {f : α → Action PUnit} {g : α → Except AdaptError PUnit} (l : List α) :
    ∀ w : World sc, (∀ a ∈ l, ∀ w', w ≤ w' → w'.Gives (f a) (g a)) →
      w.Gives (l.forM f) (l.forM g) := by
  induction l with
  | nil => intro w _; exact .pure w ()
  | cons a l ih =>
    intro w h
    rw [List.forall_mem_cons] at h
    change w.Gives (f a >>= fun _ => l.forM f) (g a >>= fun _ => l.forM g)
    refine .bind (h.1 w (le_refl w)) fun _ _ w' hw' => ?_
    exact ih w' fun a ha w'' hw'' => h.2 a ha w'' (le_trans hw' hw'')

end World

end PgAdapt
