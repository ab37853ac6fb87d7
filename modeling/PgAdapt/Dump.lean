import PgAdapt.ArrayBinary
import PgAdapt.ArrayText
import PgAdapt.Quote
import PgAdapt.Transformer

/-!
# Dumping

A dumper of single values is a function, but the dumper of arrays has to find dumpers for the
values in the array, and such a value may be an array itself. So a value is first reduced to what
matters about it, `PgAdapt.Dumpable`: its type, and what any dumper makes of it.
`PgAdapt.Dumpable.ofValue` does so by recursion on the value; below it, `PgAdapt.dumpText` and
`PgAdapt.dumpBinary` turn an array into bytes whatever its leaves are, as long as each of them can
be dumped.

Both also give the type of the array: the type of arrays over the type of the first value, or
arrays of text if that cannot be told. They only pass on what happens to the leaves, so the leaves
may be dumped in any monad in which an error can be raised: by operations on a session, or by
nothing but a function.
-/

namespace PgAdapt

/-! ### Arrays over anything that can be dumped -/

/-- The type of the arrays whose first value has a given type, if there is a value. -/
def arrayTypeOver (element : Option Oid) : Oid :=
  (element.bind Oid.arrayType?).getD .textArray

section Array

variable {α : Type} {m : Type → Type} [Monad m] [MonadExceptOf AdaptError m]
variable (dump : α → m (Bytes × Oid))

/-- The **text of an array**, and its type. Each leaf is dumped to its token and its type. -/
def dumpText (items : List (Element α)) : m (Bytes × Oid) := do
  let tokens ← Element.traverseAll dump items
  return (ArrayText.write (Element.mapAll Prod.fst tokens),
    arrayTypeOver ((Element.valuesAll tokens).head?.map Prod.snd))

/-- Refuses a length that does not fit into the four bytes for it. -/
def checkLength (what : String) (length : Nat) : m Unit := do
  if ArrayBinary.lengthLimit ≤ length then
    throw (.data (what ++ " too large for a binary array"))

/-- The bytes and the type of a leaf, or none for a `NULL`. -/
def dumpLeaf : Option α → m (Option (Bytes × Oid))
  | none => return none
  | some a => do
    let (bytes, oid) ← dump a
    checkLength "element" bytes.length
    return some (bytes, oid)

/-- The **binary form of an array**, and its type. Each leaf is dumped to its bytes and its type.
The leaves before a fault in the shape of the array are dumped before the fault is reported. -/
def dumpBinary (items : List (Element α)) : m (Bytes × Oid) := do
  if items.isEmpty then return (ArrayBinary.write .text [] [], .textArray)
  let dims ← MonadExcept.ofExcept ((ArrayBinary.dimensions items).mapError fun fault =>
    AdaptError.data fault.message)
  let (leaves, fault?) := ArrayBinary.flatten dims items
  let dumped ← leaves.mapM (dumpLeaf dump)
  if let some fault := fault? then throw (.data fault.message)
  let element := ((dumped.filterMap id).head?.map Prod.snd).getD .text
  checkLength "dimension count" dims.length
  dims.forM (checkLength "dimension")
  return (ArrayBinary.write element dims (dumped.map (Option.map Prod.fst)),
    arrayTypeOver (some element))

/-- An array in a format, and its type. -/
def dumpArrayWith (format : Format) (items : List (Element α)) : m (Bytes × Oid) :=
  match format with
  | .text => dumpText dump items
  | .binary => dumpBinary dump items

end Array

/-! ### Values -/

/-- What matters about a value when it is **dumped**. -/
structure Dumpable where
  /-- The type of the value. -/
  source : ValueType
  /-- The bytes that a dumper makes of the value. -/
  dump : Dumper → Action Bytes

namespace Dumpable

/-- The bytes and the announced type of a leaf, dumped by the dumper that the cache finds for it. -/
def dumpVia (elements : TransformerId) (format : Format) (leaf : Dumpable) :
    Action (Bytes × Oid) := do
  let dumper ← Transformer.dumperForValueOf elements leaf.source format
  let bytes ← leaf.dump dumper
  return (bytes, dumper.oid)

/-- A value that is no array: a dumper of arrays does not take it. -/
def single (v : Value) : Dumpable where
  source := v.type
  dump := fun dumper =>
    match dumper.body with
    | .scalar codec => Action.ofExcept (codec.dump v)
    | .array _ => throw (.typeMismatch dumper.name ValueType.array.label)

/-- A value that is an array with given leaves. -/
def ofArray (v : Value) (leaves : List (Element Dumpable)) : Dumpable where
  source := .array
  dump := fun dumper =>
    match dumper.body with
    | .scalar codec => Action.ofExcept (codec.dump v)
    | .array elements =>
      return (← dumpArrayWith (dumpVia elements dumper.format) dumper.format leaves).1

mutual

/-- What matters about a **value** when it is dumped. -/
def ofValue : Value → Dumpable
  | .array items => ofArray (.array items) (ofElements items)
  | .bool b => single (.bool b)
  | .int t word => single (.int t word)
  | .float t word => single (.float t word)
  | .text s => single (.text s)
  | .staticText s => single (.staticText s)
  | .blob bytes => single (.blob bytes)
  | .sharedBlob bytes => single (.sharedBlob bytes)
  | .null => single .null

/-- The elements of an array, each value reduced to what matters about it. -/
def ofElements : List (Element Value) → List (Element Dumpable)
  | [] => []
  | item :: items => ofElement item :: ofElements items

/-- An element of an array, its value reduced to what matters about it. -/
def ofElement : Element Value → Element Dumpable
  | .null => .null
  | .value v => .value (ofValue v)
  | .array items => .array (ofElements items)

end

mutual

theorem ofElement_eq : ∀ item : Element Value, ofElement item = item.map ofValue
  | .null | .value _ => by simp [ofElement, Element.map]
  | .array items => by simp [ofElement, Element.map, ofElements_eq items]

/-- The leaves of an array are its values, reduced one by one. -/
theorem ofElements_eq :
    ∀ items : List (Element Value), ofElements items = Element.mapAll ofValue items
  | [] => rfl
  | item :: items => by simp [ofElements, Element.mapAll, ofElement_eq item, ofElements_eq items]

end

theorem source_ofValue (v : Value) : (ofValue v).source = v.type := by
  cases v <;> rfl

end Dumpable

/-! ### Using a dumper -/

namespace Dumper

/-- The **bytes** of a value. -/
def dump (dumper : Dumper) (v : Value) : Action Bytes := (Dumpable.ofValue v).dump dumper

/-- The **literal** of a value: the dumper's own, or the quoted form of the bytes. -/
def quote (dumper : Dumper) (v : Value) : Action Bytes := do
  let own := match dumper.body with
    | .scalar codec => codec.literal
    | .array _ => none
  match own with
  | some literal => Action.ofExcept (literal v)
  | none =>
    let payload ← dumper.dump v
    quoteWith dumper.connection dumper.escape payload

/-- The bytes of an array together with its type, from a dumper of arrays. -/
def dumpArray (dumper : Dumper) (items : PgArray) : Action (Bytes × Oid) :=
  match dumper.body with
  | .scalar codec =>
    throw (.typeMismatch codec.name ValueType.array.label)
  | .array elements =>
    dumpArrayWith (Dumpable.dumpVia elements dumper.format) dumper.format
      (Dumpable.ofElements items)

/-- A dumper of arrays in a context, apart from any registry. -/
def forArrays (format : Format) (ctx : Context) : Action Dumper :=
  DumperFactory.build ⟨0, arrayName format, .array format⟩ .array ctx

end Dumper

/-- The bytes of a value, from the dumper that a cache finds for its type. -/
def Transformer.dump (id : TransformerId) (v : Value) (format : Format) : Action Bytes := do
  let dumper ← dumperFor id v.type format
  dumper.dump v

end PgAdapt
