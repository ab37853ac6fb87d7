import PgAdapt.ArrayBinary
import PgAdapt.ArrayText
import PgAdapt.Transformer

/-!
# Loading

A loader of single values is a function; a loader of arrays finds a loader for the elements first.
The type of the elements was fixed when the loader was registered, for text, or is in the message,
for binary arrays. `PgAdapt.loadText` and `PgAdapt.loadBinary` read an array whatever the loader
of its elements is, in any monad in which that loader can raise an error.

The loader of the elements may be a loader of arrays again. What it is given is shorter than what
the outer loader was given, so this comes to an end, with one exception: the text of no array may
be one bare token, and that is handed on as a whole before it is refused.
`PgAdapt.Loader.loadWithin` counts how often this happens in a row and gives up at
`PgAdapt.Loader.chainLimit`, because loaders may be registered in a circle.
-/

namespace PgAdapt

/-! ### Arrays over anything that can be loaded -/

section Array

variable {β : Type} {m : Type → Type} [Monad m] [MonadExceptOf AdaptError m]

/-- The array that a text spells. The tokens before a fault in the text are loaded before the
fault is reported. -/
def loadText (load : Bytes → m β) (data : Bytes) : m (List (Element β)) :=
  match ArrayText.scan data with
  | .ok items => Element.traverseAll load items
  | .error refusal => do
    refusal.tokens.forM fun token => do
      let _ ← load token
    throw (.data refusal.fault.message)

/-- A leaf of a binary array. -/
def loadLeaf (load : Bytes → m β) : Option Bytes → m (Option β)
  | none => return none
  | some bytes => return some (← load bytes)

/-- The array in a binary message, given how to find the loader for a type of elements. The elements
before a fault in the message are loaded before the fault is reported. -/
def loadBinary (loaderFor : Oid → m (Bytes → m β)) (data : Bytes) :
    m (List (Element β)) := do
  let header ← MonadExcept.ofExcept ((ArrayBinary.readHeader data).mapError fun fault =>
    AdaptError.data fault.message)
  if header.dims.isEmpty then return []
  let load ← loaderFor header.element
  let (items, fault?) := ArrayBinary.readItems (header.dims.foldl (· * ·) 1) header.body
  let leaves ← items.mapM (loadLeaf load)
  if let some fault := fault? then throw (.data fault.message)
  return ArrayBinary.arrange header.dims leaves

end Array

/-! ### Using a loader -/

namespace Loader

/-- How many loaders of arrays in a row may hand on all that they were given. -/
def chainLimit : Nat := 10000

/-- The error for loaders of arrays that hand on all that they were given for ever. -/
def circle : AdaptError := .data "array loaders are registered in a circle"

/-- The value of a string of bytes, where at most `chain` loaders of arrays in a row hand on all
that they were given. -/
def loadWithin (chain : Nat) (loader : Loader) (data : Bytes) : Action Value :=
  let loadPart (inner : Loader) (part : Bytes) : Action Value :=
    if shorter : part.length < data.length then loadWithin chainLimit inner part
    else if whole : part.length = data.length ∧ 0 < chain then loadWithin (chain - 1) inner part
    else throw circle
  match loader.body with
  | .scalar codec => Action.ofExcept (codec.load data)
  | .arrayText element elements => do
    let inner ← Transformer.loaderFor elements element .text
    return .array (← loadText (loadPart inner) data)
  | .arrayBinary elements => do
    let loaderFor (oid : Oid) : Action (Bytes → Action Value) := do
      return loadPart (← Transformer.loaderFor elements oid .binary)
    return .array (← loadBinary loaderFor data)
termination_by (data.length, chain)
decreasing_by
  · exact Prod.Lex.left _ _ shorter
  · rw [whole.1]
    exact Prod.Lex.right _ (by omega)

/-- The **value** of a string of bytes. -/
def load (loader : Loader) (data : Bytes) : Action Value := loader.loadWithin chainLimit data

end Loader

namespace Transformer

/-- The value of a string of bytes, from the loader that a cache finds for its type. -/
def load (id : TransformerId) (oid : Oid) (format : Format) (data : Bytes) : Action Value := do
  let loader ← loaderFor id oid format
  loader.load data

/-- The value of a string of bytes, which must turn out to have type `expected`. -/
def loadAs (id : TransformerId) (expected : ValueType) (oid : Oid) (format : Format)
    (data : Bytes) : Action Value := do
  let loader ← loaderFor id oid format
  let v ← loader.load data
  if v.type = expected then return v
  throw (.typeMismatch loader.name expected.label)

end Transformer

end PgAdapt
