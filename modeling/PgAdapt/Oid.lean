/-!
# Formats and type identifiers

What a message says about a parameter or a column besides its bytes: in which of two formats the
bytes are, and of which type of the server they are.
-/

namespace PgAdapt

/-! ## Wire formats

The protocol carries every parameter and every result column in one of two formats, and names the
format by a sixteen-bit code. `PgAdapt.Format` is that choice. `PgAdapt.Format.wireCode` and
`PgAdapt.Format.ofWireCode?` are the two directions of the code, and
`PgAdapt.Format.ofWireCode?_eq_some_iff` says that they are inverse to each other.
-/

/-- A **wire format** of a parameter or of a result column. -/
inductive Format where
  /-- Readable text, the format in which a message starts out. -/
  | text
  /-- Packed binary. -/
  | binary
  deriving DecidableEq, Repr, Inhabited

namespace Format

/-- Every format, by ascending code. -/
def all : List Format := [.text, .binary]

/-- The code of a format in a message. -/
def wireCode : Format → Int
  | .text => 0
  | .binary => 1

/-- The format that a code names, if it names one. -/
def ofWireCode? (code : Int) : Option Format :=
  all.find? fun format => format.wireCode == code

/-- A code names a format exactly when it is the code of that format. -/
theorem ofWireCode?_eq_some_iff {code : Int} {format : Format} :
    ofWireCode? code = some format ↔ code = format.wireCode := by
  cases format <;> simp only [ofWireCode?, all, List.find?, wireCode] <;> grind

/-- The name of a format in messages for a reader. -/
def name : Format → String
  | .text => "text"
  | .binary => "binary"

/-- The name of a format in dumps of a structure. -/
def label : Format → String
  | .text => "Text"
  | .binary => "Binary"

end Format

/-! ## Type identifiers

The server names each of its types by a 32-bit number. `PgAdapt.Oid` wraps the number, so that it is
not mistaken for a length or a format code, and gives names to the numbers that the library itself
uses. `PgAdapt.BuiltinType.table` lists the built-in types with the arrays over them;
`PgAdapt.Oid.arrayType?` reads the table from a type to its array.
-/

/-- A **type identifier** of the server. -/
structure Oid where
  /-- The number that stands in messages. -/
  number : UInt32
  deriving DecidableEq, Repr, Inhabited

namespace Oid

/-- The identifier that leaves the choice of a type to the server. -/
def unspecified : Oid := ⟨0⟩

/-- Truth values. -/
def bool : Oid := ⟨16⟩

/-- Strings of bytes. -/
def bytea : Oid := ⟨17⟩

/-- Single bytes. -/
def char : Oid := ⟨18⟩

/-- Names of objects in the server. -/
def name : Oid := ⟨19⟩

/-- Signed integers of eight bytes. -/
def int8 : Oid := ⟨20⟩

/-- Signed integers of two bytes. -/
def int2 : Oid := ⟨21⟩

/-- Signed integers of four bytes. -/
def int4 : Oid := ⟨23⟩

/-- Strings of any length. -/
def text : Oid := ⟨25⟩

/-- Type identifiers as values. -/
def oid : Oid := ⟨26⟩

/-- Binary floating-point numbers of four bytes. -/
def float4 : Oid := ⟨700⟩

/-- Binary floating-point numbers of eight bytes. -/
def float8 : Oid := ⟨701⟩

/-- Literals whose type is not known yet. -/
def unknown : Oid := ⟨705⟩

/-- Strings padded with blanks. -/
def bpchar : Oid := ⟨1042⟩

/-- Strings of limited length. -/
def varchar : Oid := ⟨1043⟩

/-- Decimal numbers of any precision. -/
def numeric : Oid := ⟨1700⟩

/-- Arrays of strings. -/
def textArray : Oid := ⟨1009⟩

/-- Whether the choice of a type is left to the server. -/
def isUnspecified (o : Oid) : Bool := o.number == 0

/-- The number of a type in decimal digits. -/
def digits (o : Oid) : String := toString o.number.toNat

/-- A type identifier in dumps of a structure. -/
def label (o : Oid) : String := "Oid(" ++ o.digits ++ ")"

end Oid

/-- A **built-in type** of the server. -/
structure BuiltinType where
  /-- The name of the type in the server's catalogue. -/
  name : String
  /-- The identifier of the type. -/
  oid : Oid
  /-- The identifier of the arrays over the type, if there are any. -/
  arrayOid : Option Oid
  deriving DecidableEq, Repr

namespace BuiltinType

/-- The built-in types, in the order of the server's catalogue. -/
def table : List BuiltinType := [
  ⟨"bool", .bool, some ⟨1000⟩⟩,
  ⟨"bytea", .bytea, some ⟨1001⟩⟩,
  ⟨"char", .char, some ⟨1002⟩⟩,
  ⟨"name", .name, some ⟨1003⟩⟩,
  ⟨"int8", .int8, some ⟨1016⟩⟩,
  ⟨"int2", .int2, some ⟨1005⟩⟩,
  ⟨"int4", .int4, some ⟨1007⟩⟩,
  ⟨"text", .text, some .textArray⟩,
  ⟨"oid", .oid, some ⟨1028⟩⟩,
  ⟨"float4", .float4, some ⟨1021⟩⟩,
  ⟨"float8", .float8, some ⟨1022⟩⟩,
  ⟨"unknown", .unknown, none⟩,
  ⟨"bpchar", .bpchar, some ⟨1014⟩⟩,
  ⟨"varchar", .varchar, some ⟨1015⟩⟩,
  ⟨"numeric", .numeric, some ⟨1231⟩⟩]

/-- The built-in type with a given identifier. -/
def ofOid? (o : Oid) : Option BuiltinType :=
  table.find? fun info => info.oid == o

/-- The built-in type with a given name. -/
def ofName? (name : String) : Option BuiltinType :=
  table.find? fun info => info.name == name

end BuiltinType

/-- The identifier of the arrays over a type, where the type is built in and has arrays. -/
def Oid.arrayType? (o : Oid) : Option Oid :=
  (BuiltinType.ofOid? o).bind BuiltinType.arrayOid

end PgAdapt
