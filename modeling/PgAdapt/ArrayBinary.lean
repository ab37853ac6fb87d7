import PgAdapt.Value

/-!
# Binary arrays

The binary form of an array, written and read: `PgAdapt.ArrayBinary.write`, and
`PgAdapt.ArrayBinary.readHeader`, `PgAdapt.ArrayBinary.readItems` and `PgAdapt.ArrayBinary.arrange`.
-/

namespace PgAdapt

/-! ## Writing

The binary form of an array is a header – the number of dimensions, whether there is a `NULL`, the
type of the elements – then the length and the lower bound of each dimension, then the elements
one after the other, each behind its length, with the length `-1` for a `NULL`. So a binary array
is a box: at every depth all arrays have the same length, and the elements that are no arrays all
lie at the same depth.

`PgAdapt.ArrayBinary.dimensions` reads the lengths off the first array of each depth, and
`PgAdapt.ArrayBinary.flatten` lists the elements of an array that has these lengths throughout.
`PgAdapt.ArrayBinary.write` puts the parts together.
-/

namespace ArrayBinary

/-! ### The shape -/

/-- Why an array is not a box. -/
inductive ShapeFault where
  /-- An array without elements has no dimensions. -/
  | empty
  /-- Two arrays of one depth differ in length. -/
  | lengths
  /-- An element that is no array lies at the wrong depth. -/
  | depths
  deriving DecidableEq, Repr

/-- The wording of a fault. -/
def ShapeFault.message : ShapeFault → String
  | .empty => "lists cannot contain empty lists"
  | .lengths => "nested lists have inconsistent lengths"
  | .depths => "nested lists have inconsistent depths"

section Shape

variable {α : Type}

mutual

/-- The lengths of the first arrays below an element. -/
def dimensionsBelow : Element α → Except ShapeFault (List Nat)
  | .array items => dimensions items
  | _ => .ok []

/-- The **dimensions** of an array: its length, and the lengths of the first arrays below. -/
def dimensions : List (Element α) → Except ShapeFault (List Nat)
  | [] => .error .empty
  | first :: rest => (dimensionsBelow first).map ((rest.length + 1) :: ·)

end

/-- A list of leaves, up to the fault that ended it, if any. -/
abbrev Flattened (α : Type) : Type := List (Option α) × Option ShapeFault

/-- The leaves of several elements, up to the first fault. -/
def flattenEach (leaves : Element α → Flattened α) : List (Element α) → Flattened α
  | [] => ([], none)
  | item :: items =>
    match leaves item with
    | (found, some fault) => (found, some fault)
    | (found, none) =>
      let (more, fault) := flattenEach leaves items
      (found ++ more, fault)

/-- The **leaves** of an array of given dimensions, row by row, up to the first place where the
array does not have them. -/
def flatten : List Nat → List (Element α) → Flattened α
  | [], _ => ([], some .depths)
  | length :: inner, items =>
    if items.length = length then
      flattenEach (fun item =>
        match inner, item with
        | _ :: _, .array items => flatten inner items
        | [], .null => ([none], none)
        | [], .value a => ([some a], none)
        | _, _ => ([], some .depths)) items
    else ([], some .lengths)

end Shape

/-! ### Writing -/

/-- A number in four bytes. -/
def word (n : Nat) : Bytes := Bytes.ofNat 4 n

/-- The length that stands for a `NULL`. -/
def nullLength : Bytes := [0xFF, 0xFF, 0xFF, 0xFF]

/-- One more than the greatest length that four bytes with a sign can hold. -/
def lengthLimit : Nat := 0x80000000

/-- An element behind its length. -/
def writeItem : Option Bytes → Bytes
  | none => nullLength
  | some bytes => word bytes.length ++ bytes

/-- The **binary form** of an array with given dimensions and leaves. -/
def write (element : Oid) (dims : List Nat) (leaves : List (Option Bytes)) : Bytes :=
  word dims.length ++ word (if none ∈ leaves then 1 else 0) ++ word element.number.toNat ++
    dims.flatMap (fun dim => word dim ++ word 1) ++ leaves.flatMap writeItem

end ArrayBinary

/-! ## Reading

A binary array is read in three steps. `PgAdapt.ArrayBinary.readHeader` reads the type of the
elements and the dimensions, and checks that the rest of the message can hold as many elements as
the dimensions announce. `PgAdapt.ArrayBinary.readItems` cuts the rest into the bytes of the
elements. And `PgAdapt.ArrayBinary.arrange` turns the elements, once they are loaded, into an
array of these dimensions.

An element that its loader refuses hides a later fault in the message, so `readItems` gives the
elements that come before the fault along with it.
-/

namespace ArrayBinary

/-! ### Faults -/

/-- A **fault** in a binary array. -/
inductive Fault where
  /-- The message ends in a number. -/
  | truncated
  /-- The message ends in an element. -/
  | truncatedItem
  /-- An element cannot have this length. -/
  | itemLength (length : Int)
  /-- An array cannot have this many dimensions. -/
  | dimensionCount (count : Int)
  /-- A dimension cannot have this length. -/
  | dimension (length : Int)
  /-- A dimension has no elements. -/
  | emptyDimension
  /-- The dimensions announce more elements than the rest of the message can hold. -/
  | excess (dims : List Nat) (remaining : Nat)
  deriving DecidableEq, Repr

/-- The wording of a fault. -/
def Fault.message (fault : Fault) : String :=
  "malformed array, " ++ match fault with
  | .truncated => "truncated binary data"
  | .truncatedItem => "truncated binary element"
  | .itemLength length => "invalid element length " ++ toString length
  | .dimensionCount count => "invalid dimension count " ++ toString count
  | .dimension length => "invalid dimension " ++ toString length
  | .emptyDimension => "zero-length dimension"
  | .excess dims remaining =>
    "dimensions [" ++ ", ".intercalate (dims.map toString) ++ "] exceed the " ++
      toString remaining ++ " bytes of element data"

/-! ### The header -/

/-- The first four bytes as a number, and the bytes behind them. -/
def readWord : Bytes → Except Fault (Nat × Bytes)
  | a :: b :: c :: d :: rest => .ok (Bytes.toNat [a, b, c, d], rest)
  | _ => .error .truncated

/-- The number that four bytes stand for when they have a sign. -/
def signed (n : Nat) : Int := if n < lengthLimit then n else (n : Int) - 0x100000000

/-- The first four bytes as a number with a sign, and the bytes behind them. -/
def readSigned (data : Bytes) : Except Fault (Int × Bytes) :=
  (readWord data).map fun (n, rest) => (signed n, rest)

/-- A number that must not be negative. -/
def natural (fault : Int → Fault) (n : Int) : Except Fault Nat :=
  if 0 ≤ n then .ok n.toNat else .error (fault n)

/-- The lengths of `count` dimensions, and the bytes behind them. The lower bounds are skipped. -/
def readDimensions : (count : Nat) → Bytes → Except Fault (List Nat × Bytes)
  | 0, data => .ok ([], data)
  | count + 1, data => do
    let (length, data) ← readSigned data
    let (_, data) ← readSigned data
    let length ← natural .dimension length
    let (lengths, data) ← readDimensions count data
    return (length :: lengths, data)

/-- The **header** of a binary array. -/
structure Header where
  /-- The type of the elements. -/
  element : Oid
  /-- The dimensions; an array without elements has none. -/
  dims : List Nat
  /-- The rest of the message. -/
  body : Bytes
  deriving DecidableEq, Repr

/-- The header of a message. The word that tells whether there is a `NULL` is skipped, and each
element takes up at least the four bytes of its length. -/
def readHeader (data : Bytes) : Except Fault Header := do
  let (count, data) ← readSigned data
  let (_, data) ← readSigned data
  let (element, data) ← readWord data
  let element : Oid := ⟨.ofNat element⟩
  let count ← natural .dimensionCount count
  if count = 0 then return ⟨element, [], data⟩
  let (dims, data) ← readDimensions count data
  if 0 ∈ dims then throw .emptyDimension
  if data.length / 4 < dims.foldl (· * ·) 1 then throw (.excess dims data.length)
  return ⟨element, dims, data⟩

/-! ### The elements -/

/-- The bytes of the first element, or none if it is a `NULL`, and the bytes behind it. -/
def readItem (data : Bytes) : Except Fault (Option Bytes × Bytes) := do
  let (length, data) ← readSigned data
  if length = -1 then return (none, data)
  let length ← natural .itemLength length
  if data.length < length then throw .truncatedItem
  return (some (data.take length), data.drop length)

/-- The bytes of `count` elements, up to the fault that ended the list, if any. -/
def readItems : (count : Nat) → Bytes → List (Option Bytes) × Option Fault
  | 0, _ => ([], none)
  | count + 1, data =>
    match readItem data with
    | .error fault => ([], some fault)
    | .ok (item, data) =>
      let (items, fault) := readItems count data
      (item :: items, fault)

/-! ### The array -/

section Arrange

variable {α : Type}

/-- The first `count` pieces of `size` elements each. -/
def pieces (size : Nat) : (count : Nat) → List α → List (List α)
  | 0, _ => []
  | count + 1, leaves => leaves.take size :: pieces size count (leaves.drop size)

/-- The **array** of given dimensions with given leaves, row by row. -/
def arrange : List Nat → List (Option α) → List (Element α)
  | [], _ => []
  | [_], leaves => Element.ofOptions leaves
  | length :: inner, leaves =>
    (pieces (inner.foldl (· * ·) 1) length leaves).map fun piece => .array (arrange inner piece)

end Arrange

end ArrayBinary

end PgAdapt
