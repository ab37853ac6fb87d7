import PgAdapt.Codec
import PgAdapt.Text.Utf8

/-!
# Codecs of truth values and of `NULL`

A truth value is the letter `t` or `f` in text and one byte in binary form. As a literal it is the
word for it, without quotes. The marker for `NULL` has no bytes at all, only a literal.

The reference catalogue makes a text or a number of a truth value first, and takes its bytes. The
optimized one has both answers ready and picks one of them, `PgAdapt.Singleton.pick`; and where the
first compares with the letters, it looks at the one byte there is.
-/

namespace PgAdapt

namespace Singleton

/-- The name of a codec of singletons. -/
def codecName (catalogue : Catalogue) (codec : String) : String :=
  catalogue.codecName .singletons codec

/-! ### Truth values -/

/-- The truth value in a value, or the complaint of a codec. -/
def boolOf (codec : String) : Value → Except AdaptError Bool
  | .bool b => .ok b
  | _ => .error (.typeMismatch codec ValueType.bool.label)

/-- One of two strings of bytes for a truth value. -/
def pick (b : Bool) (yes no : Bytes) : Bytes := if b then yes else no

/-- The letter for a truth value, by the lights of a catalogue. -/
def letter : Catalogue → Bool → Bytes
  | .reference, b => Utf8.encode (if b then "t" else "f")
  | .optimized, b => pick b (Bytes.ascii ['t']) (Bytes.ascii ['f'])

/-- The word for a truth value, by the lights of a catalogue. -/
def word : Catalogue → Bool → Bytes
  | .reference, b => Utf8.encode (toString b)
  | .optimized, b =>
    pick b (Bytes.ascii ['t', 'r', 'u', 'e']) (Bytes.ascii ['f', 'a', 'l', 's', 'e'])

/-- The byte for a truth value, by the lights of a catalogue. -/
def flag : Catalogue → Bool → Bytes
  | .reference, b => [b.toUInt8]
  | .optimized, b => pick b [1] [0]

/-- Truth values to text. -/
def boolTextDumper (catalogue : Catalogue) : ScalarDumper :=
  let name := codecName catalogue "BoolTextDumper"
  { name
    format := .text
    oid := .bool
    dump := fun v => (boolOf name v).map (letter catalogue)
    literal := some fun v => (boolOf name v).map (word catalogue) }

/-- Truth values to binary form. -/
def boolBinaryDumper (catalogue : Catalogue) : ScalarDumper :=
  let name := codecName catalogue "BoolBinaryDumper"
  { name
    format := .binary
    oid := .bool
    dump := fun v => (boolOf name v).map (flag catalogue) }

/-- The truth value of a letter, by the lights of a catalogue: one compares with the two letters,
the other looks whether there is one byte, and which. -/
def ofLetter? : Catalogue → Bytes → Option Bool
  | .reference, data =>
    if data = Bytes.ascii ['t'] then some true
    else if data = Bytes.ascii ['f'] then some false
    else none
  | .optimized, [0x74] => some true
  | .optimized, [0x66] => some false
  | .optimized, _ => none

/-- Truth values from text: the two letters and nothing else. -/
def boolTextLoader (catalogue : Catalogue) : ScalarLoader where
  name := codecName catalogue "BoolTextLoader"
  format := .text
  load data :=
    match ofLetter? catalogue data with
    | some b => .ok (.bool b)
    | none => .error (.data ("invalid bool text: " ++ quoted (Utf8.lossy data)))

/-- Truth values from binary form: one byte, false if it is zero. -/
def boolBinaryLoader (catalogue : Catalogue) : ScalarLoader where
  name := codecName catalogue "BoolBinaryLoader"
  format := .binary
  load
    | [byte] => .ok (.bool (byte ≠ 0))
    | data => .error (.data ("expected 1 byte for bool, got " ++ toString data.length))

/-! ### `NULL` -/

/-- The marker for `NULL` to a literal. It has no bytes. -/
def nullDumper (catalogue : Catalogue) : ScalarDumper :=
  let name := codecName catalogue "NullDumper"
  { name
    format := .text
    oid := .unspecified
    literal := some fun
      | .null => .ok (Bytes.ascii ['N', 'U', 'L', 'L'])
      | _ => .error (.typeMismatch name ValueType.null.label) }

end Singleton

end PgAdapt
