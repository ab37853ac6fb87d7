import PgAdapt.Error

/-!
# Codecs

A codec turns values into bytes or bytes into values. Codecs come in catalogues and are made by
makers.
-/

namespace PgAdapt

/-! ## Catalogues

There are two catalogues of codecs for the same types. The **reference** catalogue is written to
be read; the **optimized** one is written to be fast, and is installed over the first. They differ
in the names of their codecs, in how their codecs work, and here and there in what they say.
-/

/-- A **catalogue** of codecs. -/
inductive Catalogue where
  | reference
  | optimized
  deriving DecidableEq, Repr

namespace Catalogue

/-- The name of a catalogue. -/
def name : Catalogue → String
  | .reference => "reference"
  | .optimized => "optimized"

/-- The name of a codec in a group of a catalogue. -/
def codecName (catalogue : Catalogue) (group : CodecGroup) (codec : String) : String :=
  "quill_codecs::" ++ catalogue.name ++ "::" ++ group.name ++ "::" ++ codec

end Catalogue

/-! ## Codecs and their makers

A **codec** turns values of some types into bytes of one format – a dumper – or bytes into values
– a loader. For single values a codec is a record of pure functions, `PgAdapt.ScalarDumper` and
`PgAdapt.ScalarLoader`; the codecs of arrays hand their elements on to other codecs and are told
apart by `PgAdapt.DumperRecipe` and `PgAdapt.LoaderRecipe`.

A registry does not hold codecs but their **makers**, `PgAdapt.DumperFactory` and
`PgAdapt.LoaderFactory`: a codec comes to life only in the context it is used in. Two makers with
the same recipe are still two makers, so each has a number of its own.
-/

/-! ### Codecs of single values -/

/-- A **dumper of single values**. -/
structure ScalarDumper where
  /-- The name of the dumper in messages. -/
  name : String
  /-- The format of the bytes. -/
  format : Format
  /-- The type that is announced to the server. -/
  oid : Oid
  /-- The bytes of a value. -/
  dump : Value → Except AdaptError Bytes := fun _ => .error (.notImplemented name "dump")
  /-- The literal of a value, where it is not the quoted form of its bytes. -/
  literal : Option (Value → Except AdaptError Bytes) := none

/-- A **loader of single values**. -/
structure ScalarLoader where
  /-- The name of the loader in messages. -/
  name : String
  /-- The format of the bytes. -/
  format : Format
  /-- The value of a string of bytes. -/
  load : Bytes → Except AdaptError Value := fun _ => .error (.notImplemented name "cload")

/-! ### Makers -/

/-- What a maker of dumpers makes. -/
inductive DumperRecipe where
  /-- A dumper of single values. -/
  | scalar (codec : ScalarDumper)
  /-- The dumper of arrays in a format. -/
  | array (format : Format)

/-- A **maker of dumpers**. -/
structure DumperFactory where
  /-- The number that tells makers apart. -/
  id : Nat
  /-- The name of the maker. -/
  name : String
  /-- What it makes. -/
  recipe : DumperRecipe

/-- What a maker of loaders makes. -/
inductive LoaderRecipe where
  /-- A loader of single values. -/
  | scalar (codec : ScalarLoader)
  /-- The loader of arrays in text whose elements have type `element`. -/
  | arrayText (element : Oid)
  /-- The loader of binary arrays, which name the type of their elements. -/
  | arrayBinary

/-- A **maker of loaders**. -/
structure LoaderFactory where
  /-- The number that tells makers apart. -/
  id : Nat
  /-- The name of the maker. -/
  name : String
  /-- What it makes. -/
  recipe : LoaderRecipe

/-- A maker of dumpers in dumps of a structure. -/
def DumperFactory.label (factory : DumperFactory) : String :=
  "DumperFactory(" ++ quoted factory.name ++ ")"

/-- A maker of loaders in dumps of a structure. -/
def LoaderFactory.label (factory : LoaderFactory) : String :=
  "LoaderFactory(" ++ quoted factory.name ++ ")"

end PgAdapt
