import PgAdapt.Context
import PgAdapt.Toml.Document

/-!
# Reading configurations

A configuration is written as a document with a table for each group of its settings. A setting
that is left out keeps its default, and one that is not known is refused. A group may also be
written as an array of its settings in order; what an array has beyond them is not looked at.
-/

namespace PgAdapt

namespace Config

/-- Why a text is no configuration. -/
inductive Fault where
  /-- The text is no document, or the document has a setting that is unknown or of the wrong
  type. -/
  | invalid
  deriving DecidableEq, Repr

/-- The stable name of a fault. -/
def Fault.code : Fault → String
  | .invalid => "config.parse"

/-- The wording of a fault. -/
def Fault.message : Fault → String
  | .invalid => "invalid adapt configuration"

open Toml

/-- The setting of a group that has only the one under `name`; nothing if it is left out. -/
def setting? {α : Type} (name : String) (read? : Node → Option α) :
    Node → Option (Option α)
  | .table _ entries =>
    if entries.all fun entry => entry.1 = name then (entries.lookup name).mapM read? else none
  | node => do
    let items ← node.items?
    items.head?.mapM read?

/-- A truth value. -/
def truth? : Node → Option Bool
  | .truth holds => some holds
  | _ => none

/-- A version of a server, which has four bytes. -/
def version? : Node → Option Int
  | .integer n => (IntType.int32.ofInt? n).map fun _ => n
  | _ => none

/-- The rules by which a payload is escaped. -/
def escapeRules? (node : Node) : Option EscapeRules := do
  let standard ← setting? "standard_conforming_strings" truth? node
  return (standard.map EscapeRules.mk).getD {}

/-- The concessions to old servers. -/
def legacyRules? (node : Node) : Option LegacyRules := do
  let cutoff ← setting? "unknown_oid_cutoff" version? node
  return (cutoff.map LegacyRules.mk).getD {}

/-- The configuration that a document describes. -/
def ofDocument? (entries : Entries) : Option Config := do
  if !entries.all fun entry => entry.1 = "escape" || entry.1 = "legacy" then none
  let escape ← (entries.lookup "escape").mapM escapeRules?
  let legacy ← (entries.lookup "legacy").mapM legacyRules?
  return ⟨escape.getD {}, legacy.getD {}⟩

/-- The **configuration** that a text describes. -/
def read (text : String) : Except Fault Config :=
  match document? text >>= ofDocument? with
  | some config => .ok config
  | none => .error .invalid

end Config

end PgAdapt
