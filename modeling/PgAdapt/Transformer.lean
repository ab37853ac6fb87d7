import PgAdapt.Session

/-!
# Finding a codec

A maker builds a codec for a context: `PgAdapt.DumperFactory.build` and
`PgAdapt.LoaderFactory.build`. On the way a type that is left open becomes `text` if the server is
too old to be asked.

A cache finds a codec under a key by looking into itself first, and then into the registry of its
context: `PgAdapt.Transformer.dumperFor` and `PgAdapt.Transformer.loaderFor`. What it has once found
it keeps, whatever is registered later; what it has not found leaves no trace.
-/

namespace PgAdapt

/-! ### Building -/

/-- The type that a dumper announces: a type left open becomes `text` where the context is bound
to a server of a version below the cutoff. -/
def Context.announced (ctx : Context) (oid : Oid) : Action Oid := do
  if !oid.isUnspecified then return oid
  match ← ctx.liveConnection? with
  | none => return oid
  | some connection =>
    if connection.version < ctx.config.legacy.cutoff then
      Action.report (.openTypeForced connection.version)
      return .text
    else return oid

/-- The dumper that a maker builds for a type of values in a context. -/
def DumperFactory.build (factory : DumperFactory) (source : ValueType) (ctx : Context) :
    Action Dumper := do
  let id ← Action.fresh
  match factory.recipe with
  | .scalar codec =>
    let oid ← ctx.announced codec.oid
    return { id, source, format := codec.format, oid, connection := ctx.connection,
             escape := ctx.config.escape, body := .scalar codec }
  | .array format =>
    let elements ← Action.newTransformer ctx
    return { id, source, format, oid := .textArray, connection := ctx.connection,
             escape := ctx.config.escape, body := .array elements }

/-- The loader that a maker builds for a type of the server in a context. -/
def LoaderFactory.build (factory : LoaderFactory) (oid : Oid) (ctx : Context) : Action Loader := do
  let id ← Action.fresh
  match factory.recipe with
  | .scalar codec =>
    return { id, oid, format := codec.format, connection := ctx.connection, body := .scalar codec }
  | .arrayText element =>
    let elements ← Action.newTransformer ctx
    return { id, oid, format := .text, connection := ctx.connection,
             body := .arrayText element elements }
  | .arrayBinary =>
    let elements ← Action.newTransformer ctx
    return { id, oid, format := .binary, connection := ctx.connection,
             body := .arrayBinary elements }

/-! ### Looking up -/

namespace Transformer

/-- The dumper for a type of values in a format; a failure names the type as `label`. -/
def dumperNamed (id : TransformerId) (source : ValueType) (label : String) (format : Format) :
    Action Dumper := do
  let cache ← Action.transformer id
  match cache.dumpers.get? (source, format) with
  | some dumper => return dumper
  | none =>
    let registry ← Action.registry cache.context.registry
    match registry.dumper? source format with
    | none => throw (.dumperNotFound label format)
    | some factory =>
      let dumper ← factory.build source cache.context
      Action.setTransformer id
        { cache with dumpers := cache.dumpers.insert (source, format) dumper }
      return dumper

/-- The **dumper** for a type of values in a format. -/
def dumperFor (id : TransformerId) (source : ValueType) (format : Format) : Action Dumper :=
  dumperNamed id source source.label format

/-- The **dumper** for the type that a value turns out to have. A failure cannot name the type. -/
def dumperForValueOf (id : TransformerId) (source : ValueType) (format : Format) : Action Dumper :=
  dumperNamed id source ValueType.unnamed format

/-- The **loader** for a type of the server in a format. -/
def loaderFor (id : TransformerId) (oid : Oid) (format : Format) : Action Loader := do
  let cache ← Action.transformer id
  match cache.loaders.get? (oid, format) with
  | some loader => return loader
  | none =>
    let registry ← Action.registry cache.context.registry
    match registry.loader? oid format with
    | none => throw (.loaderNotFound oid format)
    | some factory =>
      let loader ← factory.build oid cache.context
      Action.setTransformer id
        { cache with loaders := cache.loaders.insert (oid, format) loader }
      return loader

end Transformer

end PgAdapt
