import PgAdapt.Bytes
import PgAdapt.Oid

/-!
# Values of the application and their arrays

What is turned into bytes and back. An array holds values, `NULL`s and further arrays, and is a value
itself.
-/

namespace PgAdapt

/-! ## Elements of arrays

An array of the server holds values, SQL `NULL`s and further arrays, in any nesting. The values
may be anything – values of the application, their tokens in a text, the actions that dump them –
so `PgAdapt.Element` takes their type as a parameter, and an array over `α` is a `List (Element
α)`.

`PgAdapt.Element.leaves` reads off the values and `NULL`s in order, `PgAdapt.Element.mapAll`
replaces every value, and `PgAdapt.Element.traverseAll` does so in a monad, from left to right.
-/

/-- An **element** of an array over `α`. -/
inductive Element (α : Type) where
  /-- SQL `NULL`. -/
  | null
  /-- A value. -/
  | value (a : α)
  /-- An array within the array. -/
  | array (items : List (Element α))
  deriving Inhabited, Repr, BEq

namespace Element

variable {α β : Type}

/-! ### Leaves -/

mutual

/-- The leaves of one element, from left to right; `none` stands for `NULL`. -/
def leaves : Element α → List (Option α)
  | .null => [none]
  | .value a => [some a]
  | .array items => leavesAll items

/-- The **leaves** of an array, from left to right; `none` stands for `NULL`. -/
def leavesAll : List (Element α) → List (Option α)
  | [] => []
  | item :: items => leaves item ++ leavesAll items

end

/-- The values of an array, from left to right. -/
def valuesAll (items : List (Element α)) : List α := (leavesAll items).filterMap id

/-! ### Replacing the values -/

mutual

/-- An element with every value replaced. -/
def map (f : α → β) : Element α → Element β
  | .null => .null
  | .value a => .value (f a)
  | .array items => .array (mapAll f items)

/-- An array with every value replaced. -/
def mapAll (f : α → β) : List (Element α) → List (Element β)
  | [] => []
  | item :: items => map f item :: mapAll f items

end

theorem mapAll_eq_map (f : α → β) (items : List (Element α)) :
    mapAll f items = items.map (map f) := by
  induction items with
  | nil => rfl
  | cons item items ih => simp [mapAll, ih]

mutual

theorem leaves_map (f : α → β) :
    ∀ item : Element α, (item.map f).leaves = item.leaves.map (Option.map f)
  | .null | .value _ => by simp [map, leaves]
  | .array items => by simp [map, leaves, leavesAll_mapAll f items]

/-- Replacing the values replaces the leaves, one by one. -/
theorem leavesAll_mapAll (f : α → β) :
    ∀ items : List (Element α), leavesAll (mapAll f items) = (leavesAll items).map (Option.map f)
  | [] => by simp [mapAll, leavesAll]
  | item :: items => by simp [mapAll, leavesAll, leaves_map f item, leavesAll_mapAll f items]

end

/-! ### Replacing the values in a monad -/

section Traverse

variable {m : Type → Type} [Monad m]

mutual

/-- An element with every value replaced by what an action gives for it. -/
def traverse (f : α → m β) : Element α → m (Element β)
  | .null => pure .null
  | .value a => return .value (← f a)
  | .array items => return .array (← traverseAll f items)

/-- An array with every value replaced by what an action gives for it, from left to right. -/
def traverseAll (f : α → m β) : List (Element α) → m (List (Element β))
  | [] => pure []
  | item :: items => return (← traverse f item) :: (← traverseAll f items)

end

end Traverse

/-! ### Reading an array -/

/-- Whether an element is SQL `NULL`. -/
def isNull : Element α → Bool
  | .null => true
  | _ => false

/-- The value of an element, if it is one. -/
def value? : Element α → Option α
  | .value a => some a
  | _ => none

/-- The array in an element, if it is one. -/
def array? : Element α → Option (List (Element α))
  | .array items => some items
  | _ => none

/-- The array of one dimension with the given values; `none` stands for `NULL`. -/
def ofOptions (values : List (Option α)) : List (Element α) :=
  values.map fun | none => .null | some a => .value a

end Element

/-! ## Values of the application

The values that are turned into bytes and back, `PgAdapt.Value`, and their types,
`PgAdapt.ValueType`. A type is the key under which a dumper is looked up; two strings, or two
strings of bytes, that are held differently have different types.

Whole numbers are words of a fixed width, described by `PgAdapt.IntType`; binary floating-point
numbers are kept as the word of their bits, described by `PgAdapt.FloatType`, so that no payload
of a `NaN` is lost.
-/

/-! ### Whole numbers -/

/-- A **type of whole numbers**. -/
inductive IntType where
  | int16 | int32 | int64 | uint8 | uint32
  deriving DecidableEq, Repr

namespace IntType

/-- The number of bytes of a word. -/
def bytes : IntType → Nat
  | .int16 => 2
  | .int32 | .uint32 => 4
  | .int64 => 8
  | .uint8 => 1

/-- Whether the words have a sign. -/
def isSigned : IntType → Bool
  | .int16 | .int32 | .int64 => true
  | .uint8 | .uint32 => false

/-- The words of a type. -/
abbrev Word (t : IntType) : Type := BitVec (8 * t.bytes)

/-- The number that a word stands for. -/
def toInt (t : IntType) (word : t.Word) : Int :=
  if t.isSigned then word.toInt else word.toNat

/-- The least number of a type. -/
def least (t : IntType) : Int := if t.isSigned then -(Nat.pow 2 (8 * t.bytes - 1) : Nat) else 0

/-- The greatest number of a type. -/
def greatest (t : IntType) : Int :=
  if t.isSigned then (Nat.pow 2 (8 * t.bytes - 1) : Nat) - 1
  else (Nat.pow 2 (8 * t.bytes) : Nat) - 1

/-- The word for a number, if the number is in the range of the type. -/
def ofInt? (t : IntType) (n : Int) : Option t.Word :=
  if t.least ≤ n ∧ n ≤ t.greatest then some (.ofInt _ n) else none

/-- A word is got back from its number. -/
@[simp]
theorem ofInt?_toInt (t : IntType) (word : t.Word) : t.ofInt? (t.toInt word) = some word := by
  have hlt := word.isLt
  have hle := word.le_toInt
  have hge := word.toInt_lt
  cases hs : t.isSigned <;> simp only [ofInt?, toInt, least, greatest, hs, Nat.pow_eq]
  · rw [if_pos (by simp only [Bool.false_eq_true, if_false]; omega)]
    simp
  · rw [if_pos (by simp only [if_true]; push_cast; omega)]
    simp

/-- The label of a type in messages. -/
def label : IntType → String
  | .int16 => "i16"
  | .int32 => "i32"
  | .int64 => "i64"
  | .uint8 => "u8"
  | .uint32 => "u32"

end IntType

/-! ### Binary floating-point numbers -/

/-- A **type of binary floating-point numbers**. -/
inductive FloatType where
  | single | double
  deriving DecidableEq, Repr

namespace FloatType

/-- The number of bytes of a word. -/
def bytes : FloatType → Nat
  | .single => 4
  | .double => 8

/-- The words of a type. -/
abbrev Word (t : FloatType) : Type := BitVec (8 * t.bytes)

/-- The label of a type in messages. -/
def label : FloatType → String
  | .single => "f32"
  | .double => "f64"

end FloatType

/-! ### Values and their types -/

/-- A **type of values**: the key under which a dumper is looked up. -/
inductive ValueType where
  /-- Truth values. -/
  | bool
  /-- Whole numbers. -/
  | int (t : IntType)
  /-- Binary floating-point numbers. -/
  | float (t : FloatType)
  /-- Texts that the value owns. -/
  | text
  /-- Texts that outlive every value. -/
  | staticText
  /-- Strings of bytes that the value owns. -/
  | blob
  /-- Strings of bytes that values share. -/
  | sharedBlob
  /-- The marker for SQL `NULL`. -/
  | null
  /-- Arrays. -/
  | array
  deriving DecidableEq, Repr

/-- The label of a type in messages. -/
def ValueType.label : ValueType → String
  | .bool => "bool"
  | .int t => t.label
  | .float t => t.label
  | .text => "alloc::string::String"
  | .staticText => "&str"
  | .blob => "alloc::vec::Vec<u8>"
  | .sharedBlob => "bytes::bytes::Bytes"
  | .null => "quill_codecs::value::Null"
  | .array => "quill_codecs::array::PgArray"

/-- The label of a type that is known only through one of its values. -/
def ValueType.unnamed : String := "<dyn Any>"

/-- A **value** of the application. -/
inductive Value where
  | bool (b : Bool)
  | int (t : IntType) (word : t.Word)
  | float (t : FloatType) (word : t.Word)
  | text (s : String)
  | staticText (s : String)
  | blob (bytes : Bytes)
  | sharedBlob (bytes : Bytes)
  /-- The marker for SQL `NULL`. -/
  | null
  /-- An array, with values as its leaves. -/
  | array (items : List (Element Value))
  deriving Inhabited

namespace Value

/-- The type of a value. -/
def type : Value → ValueType
  | .bool _ => .bool
  | .int t _ => .int t
  | .float t _ => .float t
  | .text _ => .text
  | .staticText _ => .staticText
  | .blob _ => .blob
  | .sharedBlob _ => .sharedBlob
  | .null => .null
  | .array _ => .array

/-- The word in a value of type `t`. -/
def int? (t : IntType) : Value → Option t.Word
  | .int t' word => if h : t' = t then some (h ▸ word) else none
  | _ => none

/-- The bits of a floating-point number of type `t`. -/
def float? (t : FloatType) : Value → Option t.Word
  | .float t' word => if h : t' = t then some (h ▸ word) else none
  | _ => none

/-- The text of a value, however it is held. -/
def text? : Value → Option String
  | .text s | .staticText s => some s
  | _ => none

/-- The string of bytes of a value, however it is held. -/
def blob? : Value → Option Bytes
  | .blob bytes | .sharedBlob bytes => some bytes
  | _ => none

@[simp]
theorem int?_int (t : IntType) (word : t.Word) : int? t (.int t word) = some word := by
  simp [int?]

@[simp]
theorem float?_float (t : FloatType) (word : t.Word) : float? t (.float t word) = some word := by
  simp [float?]

end Value

/-! ### Arrays of values -/

/-- An **array** of values. -/
abbrev PgArray : Type := List (Element Value)

namespace PgArray

/-- The value of an element, if it is one of type `t`. -/
def valueOfType? (t : ValueType) (item : Element Value) : Option Value :=
  item.value?.filter fun v => v.type = t

/-- The values of an array of one dimension whose values all have type `t`; `none` stands for
`NULL`. -/
def valuesOfType? (t : ValueType) (items : PgArray) : Option (List (Option Value)) :=
  items.mapM fun
    | .null => some none
    | .value v => if v.type = t then some (some v) else none
    | .array _ => none

end PgArray

end PgAdapt
