import PgAdapt.Session

/-!
# Literals

A payload becomes a literal of the query language in three steps. It is escaped in a buffer
(`PgAdapt.Escape.into?`), the buffer becomes a literal (`PgAdapt.Literal.build`), and a context says
who escapes (`PgAdapt.quoteLiteral`).
-/

namespace PgAdapt

/-! ## Escaping without a connection

Inside a string literal of the query language a quote is written twice; where the server takes a
backslash for an escape, so is a backslash. `PgAdapt.Escape.escaped` says what the escaped form of a
payload is. `PgAdapt.Escape.into?` writes it into a buffer that the caller provides, followed by a
zero byte, and refuses a buffer that the worst payload of that length would not fit into. The
positions that it writes to carry the proof that they lie in the buffer.
-/

namespace Escape

/-- The quote that encloses a literal. -/
def quote : UInt8 := '\''.toUInt8

/-- The escape character of strings that do not conform to the standard. -/
def backslash : UInt8 := '\\'.toUInt8

/-- Whether the rules write a byte twice. -/
def doubles (rules : EscapeRules) (byte : UInt8) : Bool :=
  byte == quote || (byte == backslash && !rules.standardStrings)

/-- The **escaped form** of a payload. -/
def escaped (rules : EscapeRules) (payload : Bytes) : Bytes :=
  payload.flatMap fun byte => if doubles rules byte then [byte, byte] else [byte]

/-- Writes the escaped form of a payload and a zero byte into a buffer from position `start` on;
gives the buffer and the position of the zero byte. -/
def fill {size : Nat} (rules : EscapeRules) (buffer : Vector UInt8 size) (start : Nat) :
    (payload : Bytes) → start + 2 * payload.length < size → Vector UInt8 size × Nat
  | [], h => (buffer.set start 0 (by omega), start)
  | byte :: rest, h =>
    have h : start + 2 * (rest.length + 1) < size := h
    let once := buffer.set start byte (by omega)
    if doubles rules byte then
      fill rules (once.set (start + 1) byte (by omega)) (start + 2) rest (by omega)
    else fill rules once (start + 1) rest (by omega)

/-- Writes the escaped form of a payload and a zero byte to the front of a buffer; gives the
buffer and the number of bytes before the zero byte. A buffer that does not have room for every
byte twice and for the zero byte is refused. -/
def into? {size : Nat} (rules : EscapeRules) (buffer : Vector UInt8 size) (payload : Bytes) :
    Option (Vector UInt8 size × Nat) :=
  if h : 2 * payload.length < size then some (fill rules buffer 0 payload (by omega)) else none

end Escape

/-! ## String literals

A payload becomes a literal of the query language when it is escaped and enclosed in quotes. Both
take place in one buffer that has room for every byte twice, the two quotes and a zero byte:
`PgAdapt.Literal.build` lets an escaping routine write behind the first byte of the buffer, puts
the quotes around as many bytes as the routine claims, and cuts the rest off. A routine that
claims more than twice the payload is not believed.
-/

namespace Literal

/-- Why no literal was built. -/
inductive Fault where
  /-- The routine failed. -/
  | refused
  /-- The routine claims to have written `written` bytes. -/
  | overlong (written : Nat)
  deriving DecidableEq, Repr

/-- The **literal** of a payload that a routine escapes. -/
def build (routine : EscapeRoutine) (payload : Bytes) : Except Fault Bytes :=
  let worst := 2 * payload.length
  match routine (Vector.replicate (worst + 2) 0) payload with
  | (_, none) => .error .refused
  | (inner, some written) =>
    if h : written ≤ worst then
      let buffer : Vector UInt8 (1 + (worst + 2)) := #v[(0 : UInt8)] ++ inner
      let marked := (buffer.set 0 Escape.quote).set (written + 1) Escape.quote
      .ok (marked.toList.take (written + 2))
    else .error (.overlong written)

/-- The routine that escapes by fixed rules. -/
def byRules (rules : EscapeRules) : EscapeRoutine := fun buffer payload =>
  match Escape.into? rules buffer payload with
  | some (buffer, written) => (buffer, some written)
  | none => (buffer, none)

end Literal

/-! ## Quoting

A payload becomes a literal by the routine of a connection, where there is one, and by fixed rules
where there is none. A connection that is there but cannot be used is an error and not a reason to
fall back on the rules: the literal would be made by settings that are not the server's.
-/

/-- The error for a literal that was not built, when no connection was asked. -/
def Literal.Fault.error (length : Nat) : Literal.Fault → AdaptError
  | .refused => .data "escape buffer too small"
  | .overlong written =>
    .data ("escape routine wrote " ++ toString written ++ " bytes for a " ++ toString length ++
      " byte payload")

/-- The **literal** of a payload, by the routine of a connection or by rules. -/
def quoteWith (connection : Option ConnectionId) (rules : EscapeRules) (payload : Bytes) :
    Action Bytes := do
  match connection with
  | none =>
    match Literal.build (Literal.byRules rules) payload with
    | .ok literal => return literal
    | .error fault => throw (fault.error payload.length)
  | some id =>
    let connection ← Action.connection id
    if !connection.isUsable then
      Action.report (.quoteOnClosed payload.length)
      throw .connectionClosed
    Action.setConnection id { connection with calls := connection.calls + 1 }
    match Literal.build connection.escape payload with
    | .ok literal => return literal
    | .error .refused =>
      Action.report (.escapeFailed connection.errorMessage)
      throw (.escapeFailed connection.errorMessage)
    | .error fault => throw (fault.error payload.length)

/-- The **literal** of a payload in a context. -/
def quoteLiteral (ctx : Context) (payload : Bytes) : Action Bytes :=
  quoteWith ctx.connection ctx.config.escape payload

end PgAdapt
