import PgAdapt.Codec
import PgAdapt.Text.Utf8

/-!
# Codecs of texts and of strings of bytes

A text is its own bytes in either format. The server has no room for the character zero in a text,
so such a text is refused; in text format its type is left open, because the server has several
types of texts and can tell from the query which one is meant.

A string of bytes is itself in binary form and hexadecimal digits behind `\x` in text. From the
server it may also come with escapes: `PgAdapt.Blob.unescape?`.

The catalogues go **different ways**. To find the character zero, one looks at the characters, the
other at the bytes (`PgAdapt.Text.hasZero`). To make a text of bytes, one spells it out, the other
takes a copy of the bytes over (`PgAdapt.Text.read`). One puts digits together, the other writes
them into a buffer that has been made for them (`PgAdapt.Blob.hexText`, `PgAdapt.Blob.fromHex`), and
shares bytes that are held to be shared (`PgAdapt.Blob.content`). Buffers have a length of their
own, so the second way comes with errors that the first does not know.
-/

namespace PgAdapt

namespace Text

/-- The types of texts of the server. -/
def serverTypes : List Oid := [.text, .varchar, .bpchar, .name, .unknown]

/-- The name of a codec of texts or of strings of bytes. -/
def codecName (catalogue : Catalogue) (codec : String) : String :=
  catalogue.codecName .text codec

/-! ### Texts -/

/-- Whether a text holds the character zero, by the lights of a catalogue: one looks at the
characters, the other at the bytes. -/
def hasZero : Catalogue → String → Bool
  | .reference, s => s.toList.contains '\x00'
  | .optimized, s => (Utf8.encode s).contains 0

/-- The bytes of the text in a value, or the complaint of a codec. -/
def dump (catalogue : Catalogue) (codec : String) (v : Value) : Except AdaptError Bytes :=
  match v.text? with
  | none => .error (.typeMismatch codec "String")
  | some s =>
    if hasZero catalogue s then
      .error (.data "PostgreSQL text fields cannot contain NUL (0x00) bytes")
    else .ok (Utf8.encode s)

/-- Texts to text, the type left open. -/
def textDumper (catalogue : Catalogue) : ScalarDumper :=
  let name := codecName catalogue "StringTextDumper"
  { name
    format := .text
    oid := .unspecified
    dump := dump catalogue name }

/-- Texts to binary form. -/
def binaryDumper (catalogue : Catalogue) : ScalarDumper :=
  let name := codecName catalogue "StringBinaryDumper"
  { name
    format := .binary
    oid := .text
    dump := dump catalogue name }

/-- The text of a string of bytes, by the lights of a catalogue: one spells it out, the other takes
a copy of the bytes over. -/
def read : Catalogue → Bytes → Except Utf8.Fault String
  | .reference => Utf8.decode
  | .optimized => Utf8.takeOver

/-- Texts from either format. -/
def loader (catalogue : Catalogue) (format : Format) : ScalarLoader where
  name := codecName catalogue "TextLoader"
  format := format
  load data :=
    match read catalogue data with
    | .ok s => .ok (.text s)
    | .error fault => .error (.data ("invalid utf-8 in text value: " ++ fault.message))

/-- The name of a maker of loaders of texts. -/
def loaderFactoryName (catalogue : Catalogue) : Format → String
  | .text => codecName catalogue "TextLoader"
  | .binary => codecName catalogue "TextBinaryLoader"

end Text

namespace Blob

/-! ### Strings of bytes -/

/-- The string of bytes in a value, or the complaint of a codec. -/
def bytesOf (codec : String) (v : Value) : Except AdaptError Bytes :=
  match v.blob? with
  | some bytes => .ok bytes
  | none => .error (.typeMismatch codec "Vec<u8>")

/-- The byte that starts an escape. -/
def backslash : UInt8 := '\\'.toUInt8

/-- What stands before hexadecimal digits. -/
def hexMark : Bytes := [backslash, 'x'.toUInt8]

/-- Whether a byte is a digit from zero to `greatest`. -/
def isDigit (greatest byte : UInt8) : Bool := 0x30 ≤ byte && byte ≤ greatest

/-- The byte with three octal digits. -/
def octal (a b c : UInt8) : UInt8 := 64 * (a - 0x30) + 8 * (b - 0x30) + (c - 0x30)

/-- The bytes of a string with **escapes**: two backslashes for one, three octal digits behind a
backslash for the byte of that number, and any other byte for itself. -/
def unescape? : Bytes → Option Bytes
  | [] => some []
  | byte :: rest =>
    if byte ≠ backslash then (unescape? rest).map (byte :: ·)
    else match rest with
    | [] => none
    | a :: rest =>
      if a = backslash then (unescape? rest).map (backslash :: ·)
      else match rest with
      | b :: c :: rest =>
        if isDigit 0x33 a && isDigit 0x37 b && isDigit 0x37 c then
          (unescape? rest).map (octal a b c :: ·)
        else none
      | _ => none

/-- The wording of a fault in hexadecimal digits. -/
def hexMessage : Hex.Fault → String
  | .odd => "Odd number of digits"
  | .invalid character index =>
    "Invalid character " ++ quotedChar (.ofNat character.toNat) ++ " at position " ++
      toString index
  | .slice => "Invalid string length"

/-- The bytes of hexadecimal digits, by the lights of a catalogue: one leaves all checks to the
decoder; the other looks at the number of digits itself, and has them decoded into zeros, half as
many. -/
def fromHex : Catalogue → Bytes → Except String Bytes
  | .reference, digits => (Hex.decode digits).mapError hexMessage
  | .optimized, digits =>
    if digits.length % 2 ≠ 0 then .error "odd number of digits"
    else (Hex.decodeInto (List.replicate (digits.length / 2) 0) digits).mapError hexMessage

/-- A **buffer** of a given length that starts with given bytes; zeros fill it up. -/
def buffer (length : Nat) (start : Bytes) : Bytes :=
  start.take length ++ List.replicate (length - start.length) 0

/-- Hexadecimal digits behind their mark, by the lights of a catalogue: one puts the two together;
the other makes a buffer that starts with the mark, and has the digits written over the rest. -/
def hexText : Catalogue → Bytes → Except AdaptError Bytes
  | .reference, bytes => .ok (hexMark ++ Hex.encode bytes)
  | .optimized, bytes =>
    let text := buffer (2 + 2 * bytes.length) hexMark
    match Hex.encodeInto (text.drop 2) bytes with
    | .ok digits => .ok (text.take 2 ++ digits)
    | .error fault => .error (.data ("bytea hex encoding failed: " ++ hexMessage fault))

/-- Strings of bytes to text. -/
def textDumper (catalogue : Catalogue) : ScalarDumper :=
  let name := Text.codecName catalogue "ByteaTextDumper"
  { name
    format := .text
    oid := .bytea
    dump := fun v => bytesOf name v >>= hexText catalogue }

/-- The string of bytes in a value, by the lights of a catalogue: one copies it from any value that
has one; the other first looks whether the value shares its bytes. -/
def content : Catalogue → (codec : String) → Value → Except AdaptError Bytes
  | .reference, codec, v => bytesOf codec v
  | .optimized, _, .sharedBlob bytes => .ok bytes
  | .optimized, codec, v => bytesOf codec v

/-- Strings of bytes to binary form. -/
def binaryDumper (catalogue : Catalogue) : ScalarDumper :=
  let name := Text.codecName catalogue "ByteaBinaryDumper"
  { name
    format := .binary
    oid := .bytea
    dump := content catalogue name }

/-- The string of bytes that a text spells. -/
def fromText (catalogue : Catalogue) (data : Bytes) : Except AdaptError Bytes :=
  if hexMark.isPrefixOf data then
    (fromHex catalogue (data.drop hexMark.length)).mapError fun message =>
      .data ("invalid bytea hex: " ++ message)
  else
    match unescape? data with
    | some bytes => .ok bytes
    | none => .error (.data "invalid bytea escape sequence")

/-- Strings of bytes from text. -/
def textLoader (catalogue : Catalogue) : ScalarLoader where
  name := Text.codecName catalogue "ByteaTextLoader"
  format := .text
  load data := (fromText catalogue data).map .blob

/-- Strings of bytes from binary form. -/
def binaryLoader (catalogue : Catalogue) : ScalarLoader where
  name := Text.codecName catalogue "ByteaBinaryLoader"
  format := .binary
  load data := .ok (.blob data)

end Blob

end PgAdapt
