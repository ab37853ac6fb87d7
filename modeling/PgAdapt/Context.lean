import PgAdapt.Bytes
import PgAdapt.Text.Quoted

/-!
# Contexts

What an operation has to be given: a configuration, a connection that it may refer to, and the
registry that it looks into.
-/

namespace PgAdapt

/-! ## Configuration

What a context has to be told because no connection can be asked: the rules by which a payload is
escaped without a connection, and the version of the server below which a type must not be left
open. The defaults are the cautious choices.
-/

/-- The **rules** by which a payload is escaped without a connection. -/
structure EscapeRules where
  /-- Whether the server takes a backslash for an ordinary character. -/
  standardStrings : Bool := false
  deriving DecidableEq, Repr, Inhabited

/-- The concessions to old servers. -/
structure LegacyRules where
  /-- The first version of the server that copes with a type left open. -/
  cutoff : Int := 100000
  deriving DecidableEq, Repr, Inhabited

/-- A **configuration**. -/
structure Config where
  escape : EscapeRules := {}
  legacy : LegacyRules := {}
  deriving DecidableEq, Repr, Inhabited

/-- A configuration in dumps of a structure. -/
def Config.label (config : Config) : String :=
  record "AdaptConfig" [
    ("escape", record "EscapeConfig"
      [("standard_conforming_strings", toString config.escape.standardStrings)]),
    ("legacy", record "LegacyConfig" [("unknown_oid_cutoff", toString config.legacy.cutoff)])]

/-! ## Connections

Somebody else owns the connection to the server; the library only refers to it. Four things about it
matter here: whether it is still there and open, the version of the server, its own routine for
escaping, and what it says when that routine fails.
-/

/-- An **escaping routine**: given a buffer and a payload, it leaves some bytes in the buffer and
either claims to have written a number of bytes or fails. Nothing is assumed about the two. -/
abbrev EscapeRoutine : Type :=
  {size : Nat} → Vector UInt8 size → Bytes → Vector UInt8 size × Option Nat

/-- A **connection**, as far as the library can see it. -/
structure Connection where
  /-- Whether the owner still holds the connection. -/
  held : Bool
  /-- Whether the transport is open. -/
  isOpen : Bool
  /-- The version of the server, such as `160000`. -/
  version : Int
  /-- The routine that escapes a payload by the settings of the connection. -/
  escape : EscapeRoutine
  /-- What the connection says about the last failure. -/
  errorMessage : String
  /-- How often the routine has been called. -/
  calls : Nat := 0

namespace Connection

/-- The connection that nobody holds. -/
def dropped : Connection where
  held := false
  isOpen := false
  version := 0
  escape := fun buffer _ => (buffer, none)
  errorMessage := ""

instance : Inhabited Connection := ⟨dropped⟩

/-- Whether a payload can be given to the routine of a connection. -/
def isUsable (connection : Connection) : Bool := connection.held && connection.isOpen

end Connection

/-! ## What an operation is given

A context is what an operation has to be given: the connection it may refer to, if any, the registry
it looks into, and the configuration. It owns neither of the two: connections and registries are
referred to by name, so all copies of a context see the same ones.
-/

/-- The name of a connection. -/
structure ConnectionId where
  number : Nat
  deriving DecidableEq, Repr, Inhabited

/-- The name of a registry. -/
inductive RegistryId where
  /-- The registry that everybody shares. -/
  | shared
  /-- A registry of its own. -/
  | separate (number : Nat)
  deriving DecidableEq, Repr, Inhabited

/-- A **context** of an operation. -/
structure Context where
  /-- The connection that the context is bound to. -/
  connection : Option ConnectionId := none
  /-- The registry that the context looks into. -/
  registry : RegistryId := .shared
  /-- The configuration. -/
  config : Config := {}
  deriving DecidableEq, Repr, Inhabited

namespace Context

/-- Whether a context looks into a registry of its own. -/
def hasOwnRegistry (ctx : Context) : Bool := ctx.registry ≠ .shared

/-- The registry that a registration goes to: the one that the given context looks into, or the
shared one if there is no context. -/
def target : Option Context → RegistryId
  | some ctx => ctx.registry
  | none => .shared

end Context

end PgAdapt
