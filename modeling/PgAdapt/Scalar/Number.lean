import PgAdapt.Codec
import PgAdapt.Floating
import PgAdapt.Text.Utf8

/-!
# Numbers

The codecs of whole and of floating-point numbers, and the two readers of whole numbers that the
catalogues use.
-/

namespace PgAdapt

/-! ## Whole numbers in decimal

Two readers of a whole number in decimal digits with an optional sign.

* `PgAdapt.Decimal.read?` works on characters: it takes the text apart, computes the number that the
  digits spell, and then looks whether the type has it. A type without negative numbers does not
  take a minus sign.
* `PgAdapt.Decimal.accumulate?` works on bytes: it accumulates the number digit by digit in a
  register of eight bytes, stops when the register overflows, and narrows the result to the type. It
  takes either sign for every type.
-/

namespace Decimal

/-! ### On characters -/

/-- The number that digits spell. -/
def valueOf (digits : List Char) : Nat :=
  digits.foldl (fun n c => 10 * n + (c.toNat - '0'.toNat)) 0

/-- The number that a text spells if it consists of digits and there is at least one. -/
def unsigned? (text : List Char) : Option Nat :=
  if text.isEmpty || !text.all Char.isDigit then none else some (valueOf text)

/-- The number that a text spells: digits, after a sign if there is one. A minus sign is only
allowed where there are negative numbers. -/
def integer? (isSigned : Bool) : List Char → Option Int
  | '+' :: digits => (unsigned? digits).map Int.ofNat
  | '-' :: digits => if isSigned then (unsigned? digits).map fun n => -(n : Int) else none
  | digits => (unsigned? digits).map Int.ofNat

/-- The number of a type that a string of bytes spells. -/
def read? (t : IntType) (data : Bytes) : Option t.Word := do
  let text ← Utf8.decode? data
  let n ← integer? t.isSigned text.toList
  t.ofInt? n

/-! ### On bytes -/

/-- The number of a digit. -/
def digit? (byte : UInt8) : Option Int :=
  if 0x30 ≤ byte ∧ byte ≤ 0x39 then some (byte.toNat - 0x30) else none

/-- A number, if a register of eight bytes can hold it. -/
def register? (n : Int) : Option Int := IntType.int64.ofInt? n |>.map IntType.int64.toInt

/-- The register after digits have been appended to it, on the negative side if `negative`. -/
def append? (negative : Bool) : Int → Bytes → Option Int
  | n, [] => some n
  | n, byte :: rest => do
    let digit ← digit? byte
    let shifted ← register? (n * 10)
    let appended ← register? (if negative then shifted - digit else shifted + digit)
    append? negative appended rest

/-- The number of a type that a string of bytes spells, accumulated in a register. -/
def accumulate? (t : IntType) (data : Bytes) : Option t.Word := do
  let (negative, digits) := match data with
    | 0x2D :: digits => (true, digits)
    | 0x2B :: digits => (false, digits)
    | digits => (false, digits)
  if digits.isEmpty then none
  let n ← append? negative 0 digits
  t.ofInt? n

end Decimal

/-! ## Codecs

In text a number stands in decimal, in binary form its word stands in network order. The catalogues
differ in how they read and write whole numbers (`PgAdapt.IntType.textReader`,
`PgAdapt.IntType.textWriter`) and in the style in which they write floating-point numbers
(`PgAdapt.FloatType.style`).
-/

/-- The error for a text that does not spell a value of a type. -/
def invalidText (oid : Oid) (data : Bytes) : AdaptError :=
  .data ("invalid " ++ oid.digits ++ " text: " ++ quoted (Utf8.lossy data))

/-- The error for a binary value that does not have the width of its type. -/
def invalidWidth (width : Nat) (oid : Oid) (data : Bytes) : AdaptError :=
  .data ("expected " ++ toString width ++ " bytes for oid " ++ oid.digits ++ ", got " ++
    toString data.length)

namespace IntType

/-! ### Whole numbers -/

/-- The server's type of whole numbers; single bytes have none. -/
def oid : IntType → Oid
  | .int16 => .int2
  | .int32 => .int4
  | .int64 => .int8
  | .uint8 => .unspecified
  | .uint32 => .oid

/-- The name of a codec of whole numbers. -/
def codecName (t : IntType) (catalogue : Catalogue) (codec : String) : String :=
  catalogue.codecName .numeric (codec ++ "<" ++ t.label ++ ">")

/-- The word in a value, or the complaint of a codec. -/
def wordOf (t : IntType) (codec : String) (v : Value) : Except AdaptError t.Word :=
  match v.int? t with
  | some word => .ok word
  | none => .error (.typeMismatch codec t.label)

/-- How a catalogue reads whole numbers. -/
def textReader (t : IntType) : Catalogue → Bytes → Option t.Word
  | .reference => Decimal.read? t
  | .optimized => Decimal.accumulate? t

/-- How a catalogue writes whole numbers: one makes a text of the number, the other goes for the
digits. -/
def textWriter (t : IntType) : Catalogue → t.Word → Bytes
  | .reference, word => Utf8.encode (toString (t.toInt word))
  | .optimized, word => Bytes.signedDecimal (t.toInt word)

/-- Whole numbers to text. -/
def textDumper (t : IntType) (catalogue : Catalogue) : ScalarDumper :=
  let name := t.codecName catalogue "IntTextDumper"
  { name
    format := .text
    oid := t.oid
    dump := fun v => (t.wordOf name v).map (t.textWriter catalogue) }

/-- Whole numbers to binary form. -/
def binaryDumper (t : IntType) (catalogue : Catalogue) : ScalarDumper :=
  let name := t.codecName catalogue "IntBinaryDumper"
  { name
    format := .binary
    oid := t.oid
    dump := fun v => (t.wordOf name v).map Bytes.ofWord }

/-- Whole numbers from text. -/
def textLoader (t : IntType) (catalogue : Catalogue) : ScalarLoader where
  name := t.codecName catalogue "IntTextLoader"
  format := .text
  load data :=
    match t.textReader catalogue data with
    | some word => .ok (.int t word)
    | none => .error (invalidText t.oid data)

/-- Whole numbers from binary form. -/
def binaryLoader (t : IntType) (catalogue : Catalogue) : ScalarLoader where
  name := t.codecName catalogue "IntBinaryLoader"
  format := .binary
  load data :=
    match Bytes.toWord? t.bytes data with
    | some word => .ok (.int t word)
    | none => .error (invalidWidth t.bytes t.oid data)

end IntType

namespace FloatType

/-! ### Floating-point numbers -/

/-- The server's type of floating-point numbers. -/
def oid : FloatType → Oid
  | .single => .float4
  | .double => .float8

/-- The name of a codec of floating-point numbers. -/
def codecName (t : FloatType) (catalogue : Catalogue) (codec : String) : String :=
  catalogue.codecName .numeric (codec ++ "<" ++ t.label ++ ">")

/-- The word in a value, or the complaint of a codec. -/
def wordOf (t : FloatType) (codec : String) (v : Value) : Except AdaptError t.Word :=
  match v.float? t with
  | some word => .ok word
  | none => .error (.typeMismatch codec t.label)

/-- The style in which a catalogue writes floating-point numbers. -/
def style (t : FloatType) : Catalogue → Floating.Style
  | .reference => .plain
  | .optimized => .compact t

/-- Floating-point numbers to text. -/
def textDumper (t : FloatType) (catalogue : Catalogue) : ScalarDumper :=
  let name := t.codecName catalogue "FloatTextDumper"
  { name
    format := .text
    oid := t.oid
    dump := fun v => (t.wordOf name v).map ((t.style catalogue).write t) }

/-- Floating-point numbers to binary form. -/
def binaryDumper (t : FloatType) (catalogue : Catalogue) : ScalarDumper :=
  let name := t.codecName catalogue "FloatBinaryDumper"
  { name
    format := .binary
    oid := t.oid
    dump := fun v => (t.wordOf name v).map Bytes.ofWord }

/-- Floating-point numbers from text. -/
def textLoader (t : FloatType) (catalogue : Catalogue) : ScalarLoader where
  name := t.codecName catalogue "FloatTextLoader"
  format := .text
  load data :=
    match Floating.read? t data with
    | some word => .ok (.float t word)
    | none => .error (invalidText t.oid data)

/-- Floating-point numbers from binary form. -/
def binaryLoader (t : FloatType) (catalogue : Catalogue) : ScalarLoader where
  name := t.codecName catalogue "FloatBinaryLoader"
  format := .binary
  load data :=
    match Bytes.toWord? t.bytes data with
    | some word => .ok (.float t word)
    | none => .error (invalidWidth t.bytes t.oid data)

end FloatType

end PgAdapt
