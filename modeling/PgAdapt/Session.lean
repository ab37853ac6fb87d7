import PgAdapt.Context
import PgAdapt.Registry

/-!
# Sessions

Codecs come to life in a context, and what they have in common lives in a session.
-/

namespace PgAdapt

/-! ## Dumpers and loaders in a context

What a maker makes: a codec together with what it took from the context, so that it can be used
after the context is gone. `PgAdapt.Dumper` remembers the connection and the rules for escaping,
because a dumper also writes literals; `PgAdapt.Loader` only remembers the connection. The codecs
of arrays have a cache of their own for the codecs of their elements, referred to by its name.
-/

/-- The name of a cache of codecs. -/
structure TransformerId where
  number : Nat
  deriving DecidableEq, Repr, Inhabited

/-! ### Dumpers -/

/-- The working part of a dumper. -/
inductive DumperBody where
  /-- A codec of single values. -/
  | scalar (codec : ScalarDumper)
  /-- The codec of arrays, with the cache for the dumpers of the elements. -/
  | array (elements : TransformerId)

/-- A **dumper** in a context. -/
structure Dumper where
  /-- The number that tells dumpers apart. -/
  id : Nat
  /-- The type of values that the dumper was made for. -/
  source : ValueType
  /-- The format of the bytes. -/
  format : Format
  /-- The type that is announced to the server. -/
  oid : Oid
  /-- The connection of the context. -/
  connection : Option ConnectionId
  /-- The rules for escaping of the context. -/
  escape : EscapeRules
  /-- The working part. -/
  body : DumperBody

namespace Dumper

/-- The name of the dumper of arrays in a format. -/
def arrayName : Format → String
  | .text => "quill_codecs::array::ListTextDumper"
  | .binary => "quill_codecs::array::ListBinaryDumper"

/-- The name of a dumper in messages. -/
def name (d : Dumper) : String :=
  match d.body with
  | .scalar codec => codec.name
  | .array _ => arrayName d.format

/-- What a dumper took from its context, in dumps of a structure. -/
def label (d : Dumper) : String :=
  record "DumperBase" [("source", d.source.label), ("format", d.format.label), ("oid", d.oid.label),
    ("bound", toString d.connection.isSome)]

end Dumper

/-! ### Loaders -/

/-- The working part of a loader. -/
inductive LoaderBody where
  /-- A codec of single values. -/
  | scalar (codec : ScalarLoader)
  /-- The codec of arrays in text over the type `element`, with the cache for its loader. -/
  | arrayText (element : Oid) (elements : TransformerId)
  /-- The codec of binary arrays, with the cache for the loaders of the elements. -/
  | arrayBinary (elements : TransformerId)

/-- A **loader** in a context. -/
structure Loader where
  /-- The number that tells loaders apart. -/
  id : Nat
  /-- The type of the server that the loader was made for. -/
  oid : Oid
  /-- The format of the bytes. -/
  format : Format
  /-- The connection of the context. -/
  connection : Option ConnectionId
  /-- The working part. -/
  body : LoaderBody

namespace Loader

/-- The name of the loader of arrays in a format. -/
def arrayName : Format → String
  | .text => "quill_codecs::array::ArrayTextLoader"
  | .binary => "quill_codecs::array::ArrayBinaryLoader"

/-- The name of a loader in messages. -/
def name (l : Loader) : String :=
  match l.body with
  | .scalar codec => codec.name
  | .arrayText .. | .arrayBinary _ => arrayName l.format

/-- What a loader took from its context, in dumps of a structure. -/
def label (l : Loader) : String :=
  record "LoaderBase" [("oid", l.oid.label), ("format", l.format.label),
    ("bound", toString l.connection.isSome)]

end Loader

/-! ## What outlives an operation

A session holds everything that outlives a single operation: the connections as the library sees
them, the registries, the caches of codecs, and the events reported so far. Each of them is a
total function of a name, so that a name always means something: a connection nobody holds, a
registry without makers, an empty cache.

Operations are `PgAdapt.Action`s: they may fail with an error, and what they did to the session
before they failed stays done.
-/

/-- A **cache** of codecs: those that were made in a context so far. -/
structure Transformer where
  /-- The context in which the codecs are made. -/
  context : Context := {}
  /-- The dumpers made so far. -/
  dumpers : Table (ValueType × Format) Dumper := .empty
  /-- The loaders made so far. -/
  loaders : Table (Oid × Format) Loader := .empty
  deriving Inhabited

/-- A **session**. -/
structure Session where
  /-- The connections. -/
  connections : ConnectionId → Connection := fun _ => .dropped
  /-- The registries. -/
  registries : RegistryId → Registry := fun _ => .empty
  /-- The caches of codecs. -/
  transformers : TransformerId → Transformer := fun _ => {}
  /-- The next number that has not been given to anything. -/
  next : Nat := 0
  /-- The events reported so far, the oldest first. -/
  events : List Event := []
  deriving Inhabited

/-- A function with the value at one argument replaced. -/
@[noinline]
def assign {ι : Type} {α : Type} [DecidableEq ι] (f : ι → α) (i : ι) (a : α) : ι → α :=
  fun j => if j = i then a else f j

@[simp]
theorem assign_self {ι : Type} {α : Type} [DecidableEq ι] (f : ι → α) (i : ι) (a : α) :
    assign f i a i = a := by
  simp [assign]

theorem assign_of_ne {ι : Type} {α : Type} [DecidableEq ι] {f : ι → α} {i j : ι} {a : α}
    (h : j ≠ i) : assign f i a j = f j := by
  simp [assign, h]

/-- An **operation** on a session that gives an `α` or fails. -/
abbrev Action (α : Type) : Type := ExceptT AdaptError (StateM Session) α

namespace Action

/-- An operation that only computes. -/
def ofExcept {α : Type} : Except AdaptError α → Action α
  | .ok a => pure a
  | .error e => throw e

/-- A number that has not been given to anything. -/
def fresh : Action Nat := do
  let s ← get
  set { s with next := s.next + 1 }
  return s.next

/-- Reports an event. -/
def report (event : Event) : Action Unit :=
  modify fun s => { s with events := s.events ++ [event] }

/-! ### Connections -/

/-- A connection. -/
def connection (id : ConnectionId) : Action Connection := return (← get).connections id

/-- Replaces a connection. -/
def setConnection (id : ConnectionId) (connection : Connection) : Action Unit :=
  modify fun s => { s with connections := assign s.connections id connection }

/-- A new connection. -/
def newConnection (connection : Connection) : Action ConnectionId := do
  let id : ConnectionId := ⟨← fresh⟩
  setConnection id connection
  return id

/-- The owner of a connection lets go of it. Whoever refers to it by its name will find it closed:
the name is not given to another connection. -/
def dropConnection (id : ConnectionId) : Action Unit := do
  let old ← connection id
  setConnection id { old with held := false }

/-! ### Registries -/

/-- A registry. -/
def registry (id : RegistryId) : Action Registry := return (← get).registries id

/-- Replaces a registry. -/
def setRegistry (id : RegistryId) (registry : Registry) : Action Unit :=
  modify fun s => { s with registries := assign s.registries id registry }

/-- A new registry that starts out with given makers. -/
def newRegistry (start : Registry) : Action RegistryId := do
  let id : RegistryId := .separate (← fresh)
  setRegistry id start
  return id

/-- A new registry with the makers that another one has now. -/
def snapshot (id : RegistryId) : Action RegistryId := do
  newRegistry (← registry id)

/-- Registers a maker of dumpers. -/
def registerDumper (id : RegistryId) (source : ValueType) (format : Format)
    (factory : DumperFactory) : Action Unit := do
  let old ← registry id
  setRegistry id (old.addDumper source format factory)
  report (.dumperRegistered source format factory.name (old.dumper? source format).isSome)

/-- Registers a maker of loaders. -/
def registerLoader (id : RegistryId) (oid : Oid) (format : Format)
    (factory : LoaderFactory) : Action Unit := do
  let old ← registry id
  setRegistry id (old.addLoader oid format factory)
  report (.loaderRegistered oid format factory.name (old.loader? oid format).isSome)

/-- A new maker of dumpers. -/
def newDumperFactory (name : String) (recipe : DumperRecipe) : Action DumperFactory :=
  return ⟨← fresh, name, recipe⟩

/-- A new maker of loaders. -/
def newLoaderFactory (name : String) (recipe : LoaderRecipe) : Action LoaderFactory :=
  return ⟨← fresh, name, recipe⟩

/-! ### Caches -/

/-- A cache of codecs. -/
def transformer (id : TransformerId) : Action Transformer := return (← get).transformers id

/-- Replaces a cache of codecs. -/
def setTransformer (id : TransformerId) (transformer : Transformer) : Action Unit :=
  modify fun s => { s with transformers := assign s.transformers id transformer }

/-- A new cache, empty, for the codecs of a context. -/
def newTransformer (ctx : Context) : Action TransformerId := do
  let id : TransformerId := ⟨← fresh⟩
  setTransformer id { context := ctx }
  return id

end Action

namespace Context

/-- A new context that looks into a copy of the shared registry. -/
def seeded : Action Context := do
  return { registry := ← Action.snapshot .shared }

/-- The connection of a context, if the context has one and its owner still holds it. -/
def liveConnection? (ctx : Context) : Action (Option Connection) := do
  match ctx.connection with
  | none => return none
  | some id =>
    let connection ← Action.connection id
    return if connection.held then some connection else none

/-- A context in dumps of a structure. -/
def label (ctx : Context) : Action String := do
  let state ← match ctx.connection with
    | none => pure "none"
    | some id => pure (if (← Action.connection id).held then "bound" else "dropped")
  return record "AdaptContext" [("connection", quoted state),
    ("local_registry", toString ctx.hasOwnRegistry), ("config", ctx.config.label)]

end Context

end PgAdapt
