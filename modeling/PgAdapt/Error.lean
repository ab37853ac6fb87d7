import PgAdapt.Text.Quoted
import PgAdapt.Value

/-!
# Errors and events

What the library says when something goes wrong, and what it reports while it works.
-/

namespace PgAdapt

/-! ## Errors

Everything that can go wrong between a value and its bytes, `PgAdapt.AdaptError`, with three
readings: a stable code (`PgAdapt.AdaptError.code`), a message (`PgAdapt.AdaptError.message`) and
a dump (`PgAdapt.AdaptError.label`). Faults that only one part of the library knows have types of
their own there, and reach the caller as `PgAdapt.AdaptError.data` with their wording.
-/

/-- An **error** of the conversion between values and bytes. -/
inductive AdaptError where
  /-- The codec does not provide the operation. -/
  | notImplemented (codec operation : String)
  /-- The connection is closed, or nobody holds it any more. -/
  | connectionClosed
  /-- The connection could not escape a payload, and said why. -/
  | escapeFailed (message : String)
  /-- The value is not of a type that the codec takes. -/
  | typeMismatch (codec expected : String)
  /-- The value, or the data from the server, is not valid. -/
  | data (message : String)
  /-- No dumper is registered for the type and the format. -/
  | dumperNotFound (typeName : String) (format : Format)
  /-- No loader is registered for the type and the format. -/
  | loaderNotFound (oid : Oid) (format : Format)
  deriving DecidableEq, Repr

namespace AdaptError

/-- The stable code of an error, a domain and a cause. -/
def code : AdaptError → String
  | .notImplemented .. => "adapt.not_implemented"
  | .connectionClosed => "adapt.operational.connection_closed"
  | .escapeFailed _ => "adapt.operational.escape_failed"
  | .typeMismatch .. => "adapt.type_mismatch"
  | .data _ => "adapt.data"
  | .dumperNotFound .. => "adapt.lookup.dumper_missing"
  | .loaderNotFound .. => "adapt.lookup.loader_missing"

/-- The message of an error. -/
def message : AdaptError → String
  | .notImplemented codec operation =>
    "`" ++ codec ++ "` does not implement `" ++ operation ++ "`"
  | .connectionClosed => "the connection is closed"
  | .escapeFailed message => "escape_string failed: " ++ message
  | .typeMismatch codec expected =>
    "`" ++ codec ++ "` cannot adapt a value that is not `" ++ expected ++ "`"
  | .data message => message
  | .dumperNotFound typeName format =>
    "cannot adapt type `" ++ typeName ++ "` to format " ++ format.name ++ ": no dumper registered"
  | .loaderNotFound oid format =>
    "cannot load oid " ++ oid.digits ++ " in format " ++ format.name ++ ": no loader registered"

/-- Whether an error comes from the state of the connection. -/
def isOperational : AdaptError → Bool
  | .connectionClosed | .escapeFailed _ => true
  | _ => false

/-- An error in dumps of a structure. -/
def label : AdaptError → String
  | .notImplemented codec operation =>
    record "NotImplemented" [("codec", quoted codec), ("operation", quoted operation)]
  | .connectionClosed => "ConnectionClosed"
  | .escapeFailed message => record "EscapeFailed" [("message", quoted message)]
  | .typeMismatch codec expected =>
    record "TypeMismatch" [("codec", quoted codec), ("expected", quoted expected)]
  | .data message => record "Data" [("message", quoted message)]
  | .dumperNotFound typeName format =>
    record "DumperNotFound" [("type_name", quoted typeName), ("format", format.label)]
  | .loaderNotFound oid format =>
    record "LoaderNotFound" [("oid", oid.label), ("format", format.label)]

end AdaptError

/-! ## Events

What the library reports about its work while it works. An event has a level, a target, a message
and fields; `PgAdapt.Event.level` and its neighbours give them.
-/

/-- A **group** of codecs that is installed as a whole. -/
inductive CodecGroup where
  /-- Whole numbers and floating-point numbers. -/
  | numeric
  /-- Truth values and `NULL`. -/
  | singletons
  /-- Texts and strings of bytes. -/
  | text
  deriving DecidableEq, Repr

namespace CodecGroup

/-- The groups, in the order in which they are installed. -/
def order : List CodecGroup := [.numeric, .singletons, .text]

/-- The name of a group. -/
def name : CodecGroup → String
  | .numeric => "numeric"
  | .singletons => "singletons"
  | .text => "text"

/-- A group in dumps of a structure. -/
def label : CodecGroup → String
  | .numeric => "Numeric"
  | .singletons => "Singletons"
  | .text => "Text"

end CodecGroup

/-- An **event** that the library reports. -/
inductive Event where
  /-- A payload of `length` bytes was to be quoted on a connection that is closed. -/
  | quoteOnClosed (length : Nat)
  /-- The escaping routine of a connection failed. -/
  | escapeFailed (message : String)
  /-- A type that was left open became `text`, for the sake of an old server. -/
  | openTypeForced (version : Int)
  /-- A dumper was registered, over another one if `shadowed`. -/
  | dumperRegistered (source : ValueType) (format : Format) (factory : String) (shadowed : Bool)
  /-- A loader was registered, over another one if `shadowed`. -/
  | loaderRegistered (oid : Oid) (format : Format) (factory : String) (shadowed : Bool)
  /-- A group of a catalogue was installed; the registry now has so many dumpers and loaders. -/
  | groupInstalled (catalogue : String) (group : CodecGroup) (dumpers loaders : Nat)
  /-- Loaders for `count` types of arrays were registered. -/
  | arraysRegistered (count : Nat)
  deriving DecidableEq, Repr

namespace Event

/-- The level of an event. -/
def level : Event → String
  | .quoteOnClosed _ | .escapeFailed _ => "WARN"
  | .openTypeForced _ => "TRACE"
  | .dumperRegistered .. | .loaderRegistered .. | .arraysRegistered _ => "DEBUG"
  | .groupInstalled .. => "INFO"

/-- The target of an event. -/
def target : Event → String
  | .quoteOnClosed _ | .escapeFailed _ => "quill_core::quote"
  | .openTypeForced _ => "quill_core::dumper"
  | .dumperRegistered .. | .loaderRegistered .. => "quill_core::registry"
  | .groupInstalled .. => "quill_core::bootstrap"
  | .arraysRegistered _ => "quill_codecs::array"

/-- The message of an event. -/
def message : Event → String
  | .quoteOnClosed _ => "quote on a closed connection"
  | .escapeFailed _ => "connection escape routine failed"
  | .openTypeForced _ => "unspecified oid forced to text"
  | .dumperRegistered .. => "dumper registered"
  | .loaderRegistered .. => "loader registered"
  | .groupInstalled .. => "adapter group installed"
  | .arraysRegistered _ => "array loaders registered"

/-- The fields of an event, in order. -/
def fields : Event → List (String × String)
  | .quoteOnClosed length => [("payload_len", toString length)]
  | .escapeFailed message => [("error", message)]
  | .openTypeForced version => [("server_version", toString version)]
  | .dumperRegistered source format factory shadowed =>
    [("source", source.label), ("format", format.name), ("factory", factory),
      ("shadowed", toString shadowed)]
  | .loaderRegistered oid format factory shadowed =>
    [("oid", oid.digits), ("format", format.name), ("factory", factory),
      ("shadowed", toString shadowed)]
  | .groupInstalled catalogue group dumpers loaders =>
    [("catalogue", catalogue), ("group", group.name), ("dumpers", toString dumpers),
      ("loaders", toString loaders)]
  | .arraysRegistered count => [("registered", toString count)]

end Event

end PgAdapt
