import PgAdapt.Toml.Number

/-!
# Documents

What a document describes is a tree of tables with values in them. The tree comes first, then the
values that are written in a document, and then the way from a text to its tree.
-/

namespace PgAdapt

/-! ## The tree of a document

A document describes a tree of tables. `PgAdapt.Toml.Node` is a node of it, and three operations
build it up: `PgAdapt.Toml.Entries.assign` gives a value to a key,
`PgAdapt.Toml.Entries.openTable` starts a table, and `PgAdapt.Toml.Entries.appendTable` starts one
more table of an array.

A key has a value once, and a table is written in one place. What that means depends on what
brought the table about, its `PgAdapt.Toml.Origin`: tables that only lie on the way to another one
may still be started, and tables made by keys with dots may still get keys, but only from keys
with dots.
-/

namespace Toml

/-- What brought a table about. -/
inductive Origin where
  /-- It was started under a header of its own. -/
  | header
  /-- It lies on the way to a table that was started. -/
  | implied
  /-- It lies on the way to a value of a key with dots. -/
  | dotted
  /-- It is a value, in braces. -/
  | inline
  deriving DecidableEq, Repr

/-- Whether a path that brings about tables of the origin `made` may pass through a table: a
header may pass through all that are no values, and a key with dots through none that has a
header. -/
def Origin.admits (made : Origin) : Origin → Bool
  | .header => made = .implied
  | .implied | .dotted => true
  | .inline => false

/-- A **node** of a document. Of a moment it is only known that it is one. -/
inductive Node where
  | text (content : String)
  | integer (n : Int)
  | float (word : Double)
  | truth (holds : Bool)
  | moment
  | array (items : List Node)
  | table (origin : Origin) (entries : List (String × Node))
  /-- An array of tables that were started under headers, the newest of them apart. -/
  | tables (earlier : List Node) (newest : List (String × Node))

/-- The keys of a table with their values. -/
abbrev Entries : Type := List (String × Node)

/-- The items of an array. -/
def Node.items? : Node → Option (List Node)
  | .array items => some items
  | .tables earlier newest => some (earlier ++ [.table .header newest])
  | _ => none

namespace Entries

/-- The keys with a new value under one that is there. -/
def replace (entries : Entries) (key : String) (node : Node) : Entries :=
  entries.map fun entry => if entry.1 = key then (key, node) else entry

/-- The keys with one more. -/
def add (entries : Entries) (key : String) (node : Node) : Entries := entries ++ [(key, node)]

/-- The entries after those at the end of a path have changed by `change`, which is told what
brought about the table it changes. Tables that are not there are brought about, with the origin
`made`. In an array of tables the path leads to the newest one. -/
def descend (made : Origin) (change : Origin → Entries → Option Entries) :
    List String → Origin → Entries → Option Entries
  | [], origin, entries => change origin entries
  | key :: path, _, entries =>
    match entries.lookup key with
    | none => do
      let inside ← descend made change path made []
      return entries.add key (.table made inside)
    | some (.table origin inside) => do
      if !made.admits origin then none
      let inside ← descend made change path origin inside
      return entries.replace key (.table origin inside)
    | some (.tables earlier newest) => do
      let newest ← descend made change path .header newest
      return entries.replace key (.tables earlier newest)
    | some _ => none

/-- The entries after the key at the end of a path has been given a value. -/
def assign (path : List String) (node : Node) (entries : Entries) : Option Entries := do
  let key ← path.getLast?
  descend .dotted (fun origin inside =>
    if (path.length = 1 ∨ origin = .dotted) ∧ inside.lookup key = none then
      some (inside.add key node)
    else none) path.dropLast .header entries

/-- The entries after the table at the end of a path has been started. -/
def openTable (path : List String) (entries : Entries) : Option Entries := do
  let key ← path.getLast?
  descend .implied (fun _ inside =>
    match inside.lookup key with
    | none => some (inside.add key (.table .header []))
    | some (.table .implied known) => some (inside.replace key (.table .header known))
    | some _ => none) path.dropLast .header entries

/-- The entries after one more table of the array at the end of a path has been started. -/
def appendTable (path : List String) (entries : Entries) : Option Entries := do
  let key ← path.getLast?
  descend .implied (fun _ inside =>
    match inside.lookup key with
    | none => some (inside.add key (.tables [] []))
    | some (.tables earlier newest) =>
      some (inside.replace key (.tables (earlier ++ [.table .header newest]) []))
    | some _ => none) path.dropLast .header entries

end Entries

end Toml

/-! ## Values

A value is a text, a number, a truth value, a moment, an array, or a table in braces. An array may
be spread over several lines and have a comma at its end; a table in braces stands on one line and
may not. Arrays and tables in braces may be nested in each other up to a bound, which is what
makes `PgAdapt.Toml.value` end.
-/

namespace Toml

open Reading

/-- A value without parts. -/
def scalar : Reading Node :=
  (do let content ← quotedText; return .text (.ofList content))
    <|> (do moment; return .moment)
    <|> (do let word ← float; return .float word)
    <|> (do let n ← integer; return .integer n)
    <|> word ['t', 'r', 'u', 'e'] (.truth true)
    <|> word ['f', 'a', 'l', 's', 'e'] (.truth false)

/-- An array of the values that `item` reads. -/
def array (item : Reading Node) : Reading Node := do
  mark '['
  let items ← filled <|> pure []
  space
  mark ']'
  return .array items
where
  /-- At least one value, and perhaps a comma after the last one. -/
  filled : Reading (List Node) := do
    let items ← separated (mark ',') do
      space
      let node ← item
      space
      return node
    let _ ← optional (mark ',')
    return items

/-- A key with one of the values that `item` reads. -/
def assignment (item : Reading Node) : Reading (List String × Node) := do
  let keys ← path
  mark '='
  blanks
  let node ← item
  return (keys, node)

/-- A table in braces, of the values that `item` reads. -/
def inlineTable (item : Reading Node) : Reading Node := do
  mark '\x7b'
  let assignments ← separated (mark ',') (do
    let found ← assignment item
    blanks
    return found) <|> pure []
  blanks
  mark '\x7d'
  let entries ← liftM <| assignments.foldlM
    (fun (entries : Entries) (keys, node) => entries.assign keys node) []
  return .table .inline entries

/-- A **value** with at most `depth` arrays and tables in braces around any part of it. -/
def value : (depth : Nat) → Reading Node
  | 0 => scalar
  | depth + 1 => scalar <|> array (value depth) <|> inlineTable (value depth)

/-- How many arrays and tables in braces there may be around a part of a value. -/
def depthLimit : Nat := 79

end Toml

/-! ## From text to tree

A document is read in two steps. `PgAdapt.Toml.statements?` takes the text apart into lines with a
`PgAdapt.Toml.Statement` on each, and `PgAdapt.Toml.Entries.ofStatements?` builds the tree that the
statements describe: `PgAdapt.Toml.document?` is one after the other.
-/

namespace Toml

open Reading

/-- What a line of a document **states**. -/
inductive Statement where
  /-- The keys that follow belong to this table. -/
  | table (path : List String)
  /-- The keys that follow belong to one more table of this array. -/
  | tableOfArray (path : List String)
  /-- A key has this value. -/
  | assignment (path : List String) (node : Node)
  /-- Nothing. -/
  | blank

/-! ### From text to statements -/

/-- The statement of a line, without what may follow it. -/
def statement : Reading Statement :=
  (do
    word ['[', '['] ()
    let keys ← path
    word [']', ']'] ()
    return .tableOfArray keys) <|>
  (do
    mark '['
    let keys ← path
    mark ']'
    return .table keys) <|>
  (do
    let (keys, node) ← assignment (value depthLimit)
    return .assignment keys node) <|>
  pure .blank

/-- A line. -/
def line : Reading Statement := do
  blanks
  let found ← statement
  blanks
  let _ ← optional comment
  return found

/-- The statements of a text, which may start with a byte order mark. -/
def statements? (text : List Char) : Option (List Statement) :=
  whole? (do
    let _ ← optional (mark '\uFEFF')
    separated newline line) text

/-! ### From statements to the tree -/

/-- A tree under construction. -/
structure Draft where
  /-- The entries so far. -/
  root : Entries := []
  /-- The path of the table that keys belong to. -/
  current : List String := []

/-- The tree after one more statement. -/
def Draft.add? (draft : Draft) : Statement → Option Draft
  | .table path => do return ⟨← draft.root.openTable path, path⟩
  | .tableOfArray path => do return ⟨← draft.root.appendTable path, path⟩
  | .assignment path node => do
    let root ← draft.root.descend .implied (fun _ table => table.assign path node)
      draft.current .header
    return { draft with root }
  | .blank => some draft

/-- The tree that statements describe. -/
def Entries.ofStatements? (statements : List Statement) : Option Entries := do
  let draft ← statements.foldlM Draft.add? {}
  return draft.root

/-- The **document** that a text spells. -/
def document? (text : String) : Option Entries := do
  let statements ← statements? text.toList
  Entries.ofStatements? statements

end Toml

end PgAdapt
