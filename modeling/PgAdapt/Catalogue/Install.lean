import PgAdapt.Scalar.Number
import PgAdapt.Scalar.Singleton
import PgAdapt.Scalar.Text
import PgAdapt.Session
import PgAdapt.Text.Capital

/-!
# Catalogues in registries

What is in a catalogue, and how a registry is filled with it.
-/

namespace PgAdapt

/-! ## What is in a catalogue

The content of a catalogue is a list for each group, in the order in which it is registered. An
entry says what is registered under which key, and by which maker: entries of one list with the
same maker number share their maker. `PgAdapt.Catalogue.content` gives the list of a group.
-/

/-- A **registration**: a key with the name and the recipe of a maker. -/
inductive Registration where
  /-- A maker of dumpers. -/
  | dumper (source : ValueType) (format : Format) (name : String) (recipe : DumperRecipe)
  /-- A maker of loaders. -/
  | loader (oid : Oid) (format : Format) (name : String) (recipe : LoaderRecipe)

namespace Registration

/-- The registration of a dumper of single values, under its own name and format. -/
def ofDumper (source : ValueType) (codec : ScalarDumper) : Registration :=
  .dumper source codec.format codec.name (.scalar codec)

/-- The registration of a loader of single values, under its own name and format. -/
def ofLoader (oid : Oid) (codec : ScalarLoader) : Registration :=
  .loader oid codec.format codec.name (.scalar codec)

end Registration

/-- A registration by a maker of a given number. -/
structure Entry where
  maker : Nat
  registration : Registration

/-- Registrations each with a maker of its own, numbered from `start` on. -/
def Entry.separate (start : Nat) (registrations : List Registration) : List Entry :=
  registrations.zipIdx start |>.map fun (registration, maker) => ⟨maker, registration⟩

namespace Catalogue

/-! ### Numbers -/

/-- The dumpers of a type of whole numbers. -/
def intDumpers (c : Catalogue) (t : IntType) : List Registration :=
  [.ofDumper (.int t) (t.textDumper c), .ofDumper (.int t) (t.binaryDumper c)]

/-- The loaders of a type of whole numbers. -/
def intLoaders (c : Catalogue) (t : IntType) : List Registration :=
  [.ofLoader t.oid (t.textLoader c), .ofLoader t.oid (t.binaryLoader c)]

/-- The codecs of a type of floating-point numbers. -/
def floatCodecs (c : Catalogue) (t : FloatType) : List Registration :=
  [.ofDumper (.float t) (t.textDumper c), .ofDumper (.float t) (t.binaryDumper c),
    .ofLoader t.oid (t.textLoader c), .ofLoader t.oid (t.binaryLoader c)]

/-- The types of whole numbers that can be dumped. Type identifiers can only be loaded: a number of
their type does not say that it is one. -/
def dumpedInts : List IntType := [.int16, .int32, .int64]

/-- The whole numbers of a catalogue: type by type, or all dumpers first. -/
def ints : Catalogue → List Registration
  | .reference =>
    dumpedInts.flatMap (fun t => intDumpers .reference t ++ intLoaders .reference t) ++
      intLoaders .reference .uint32
  | .optimized =>
    dumpedInts.flatMap (intDumpers .optimized) ++
      (dumpedInts ++ [IntType.uint32]).flatMap (intLoaders .optimized)

/-- The codecs of numbers. -/
def numeric (c : Catalogue) : List Entry :=
  Entry.separate 0 (c.ints ++ [.single, .double].flatMap c.floatCodecs)

/-! ### Singletons -/

/-- The codecs of truth values and of `NULL`. -/
def singletons (c : Catalogue) : List Entry :=
  Entry.separate 0 [
    .ofDumper .bool (Singleton.boolTextDumper c), .ofDumper .bool (Singleton.boolBinaryDumper c),
    .ofDumper .null (Singleton.nullDumper c),
    .ofLoader .bool (Singleton.boolTextLoader c), .ofLoader .bool (Singleton.boolBinaryLoader c)]

/-! ### Texts and strings of bytes -/

/-- The numbers of the makers of dumpers: the reference catalogue has one for each key, the
optimized one shares them between types of one kind. -/
def textMakers : Catalogue → List Nat
  | .reference => [0, 1, 2, 3, 4, 5, 6, 7]
  | .optimized => [0, 1, 0, 1, 2, 3, 2, 3]

/-- The dumpers of texts and of strings of bytes. -/
def textDumpers (c : Catalogue) : List Registration :=
  [.text, .staticText].flatMap (fun source =>
      [.ofDumper source (Text.textDumper c), .ofDumper source (Text.binaryDumper c)]) ++
    [.blob, .sharedBlob].flatMap fun source =>
      [.ofDumper source (Blob.textDumper c), .ofDumper source (Blob.binaryDumper c)]

/-- The loaders of texts in a format, by one maker for all types of texts. -/
def textLoaders (c : Catalogue) (maker : Nat) (format : Format) : List Entry :=
  Text.serverTypes.map fun oid =>
    ⟨maker, .loader oid format (Text.loaderFactoryName c format) (.scalar (Text.loader c format))⟩

/-- The codecs of texts and of strings of bytes. -/
def texts (c : Catalogue) : List Entry :=
  List.zipWith Entry.mk c.textMakers c.textDumpers ++
    c.textLoaders 8 .text ++ c.textLoaders 9 .binary ++
    Entry.separate 10 [.ofLoader .bytea (Blob.textLoader c), .ofLoader .bytea (Blob.binaryLoader c)]

/-- The **content** of a group of a catalogue. -/
def content (c : Catalogue) : CodecGroup → List Entry
  | .numeric => c.numeric
  | .singletons => c.singletons
  | .text => c.texts

end Catalogue

/-- The dumpers of arrays. -/
def arrayDumpers : List Entry :=
  Entry.separate 0 (Format.all.map fun format =>
    .dumper .array format (Dumper.arrayName format) (.array format))

/-! ## Filling a registry

`PgAdapt.Action.installCatalogue` registers a catalogue group by group. Dumpers of arrays are
registered by `PgAdapt.Action.registerArrayDumpers`; loaders of arrays come last, because
`PgAdapt.Action.registerAllArrays` registers them for the built-in types that can already be
loaded. `PgAdapt.Action.installBuiltin` does all of it: first the reference catalogue with its
arrays, then, if wanted, the optimized one over it.
-/

namespace Action

/-! ### Lists of registrations -/

/-- So many numbers in a row that have not been given to anything; gives the first. -/
def reserve (count : Nat) : Action Nat := do
  let s ← get
  set { s with next := s.next + count }
  return s.next

/-- Carries out a registration by a maker of a given number. -/
def register (id : RegistryId) (maker : Nat) : Registration → Action Unit
  | .dumper source format name recipe => registerDumper id source format ⟨maker, name, recipe⟩
  | .loader oid format name recipe => registerLoader id oid format ⟨maker, name, recipe⟩

/-- Carries out the registrations of a list, with new makers. -/
def registerEntries (id : RegistryId) (entries : List Entry) : Action Unit := do
  let base ← reserve (entries.length + 1)
  entries.forM fun entry => register id (base + entry.maker) entry.registration

/-- Registers a group of a catalogue. -/
def registerGroup (id : RegistryId) (catalogue : Catalogue) (group : CodecGroup) : Action Unit :=
  registerEntries id (catalogue.content group)

/-- Registers a **catalogue**, group by group. -/
def installCatalogue (id : RegistryId) (catalogue : Catalogue) : Action Unit :=
  CodecGroup.order.forM fun group => do
    registerGroup id catalogue group
    let now ← registry id
    report (.groupInstalled catalogue.name group now.dumpers.size now.loaders.size)

/-! ### Arrays -/

/-- Registers the dumpers of arrays. -/
def registerArrayDumpers (id : RegistryId) : Action Unit := registerEntries id arrayDumpers

/-- The name that stands in the names of the loaders of an array. -/
def arrayLoaderName (element : Oid) (name : Option String) : String :=
  Capital.first (name.getD ("oid" ++ element.digits))

/-- Registers the **loaders of arrays** of a type over elements of another type. -/
def registerArray (id : RegistryId) (array element : Oid) (name : Option String) : Action Unit := do
  let name := arrayLoaderName element name
  let text ← newLoaderFactory (name ++ "ArrayLoader") (.arrayText element)
  registerLoader id array .text text
  let binary ← newLoaderFactory (name ++ "ArrayBinaryLoader") .arrayBinary
  registerLoader id array .binary binary

/-- Registers the loaders of arrays over a built-in type if the type has arrays and can be loaded;
says whether it has done so. -/
def registerArrayOver (id : RegistryId) (info : BuiltinType) : Action Bool := do
  match info.arrayOid with
  | none => return false
  | some array =>
    if (← registry id).canLoad info.oid then
      registerArray id array info.oid (some info.name)
      return true
    else return false

/-- Registers the loaders of arrays over every built-in type that can be loaded; gives their
number. -/
def registerAllArrays (id : RegistryId) : Action Nat := do
  let done ← BuiltinType.table.mapM (registerArrayOver id)
  let count := done.count true
  report (.arraysRegistered count)
  return count

/-! ### Everything -/

/-- Registers a **catalogue with its arrays**. The dumpers of arrays come with the reference
catalogue. -/
def installBuiltin (id : RegistryId) (catalogue : Catalogue) : Action Unit := do
  installCatalogue id catalogue
  if catalogue = .reference then registerArrayDumpers id
  let _ ← registerAllArrays id

end Action

end PgAdapt
