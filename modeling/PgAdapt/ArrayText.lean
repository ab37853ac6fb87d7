import PgAdapt.Text.Utf8
import PgAdapt.Value

/-!
# Arrays in text

The text of an array, written and read: `PgAdapt.ArrayText.write` and `PgAdapt.ArrayText.scan`. Both
deal with tokens only, the texts of the values.
-/

namespace PgAdapt

/-! ## Writing

The text of an array encloses its elements in braces and puts commas between them. A value is its
token – the text that its own dumper gives – either bare or between double quotes; a `NULL` is the
bare word `NULL`. `PgAdapt.ArrayText.needsQuotes` says which tokens must not stand bare: those
that would end too early, lose blanks at their ends, or be taken for a `NULL` in any spelling.

`PgAdapt.ArrayText.write` gives the text of an array of tokens.
-/

namespace ArrayText

/-! ### The bytes with a meaning -/

/-- The byte that opens an array. -/
def opening : UInt8 := 0x7B

/-- The byte that closes an array. -/
def closing : UInt8 := 0x7D

/-- The byte between two elements. -/
def comma : UInt8 := ','.toUInt8

/-- The byte around a quoted token. -/
def quote : UInt8 := '"'.toUInt8

/-- The byte that takes away the meaning of the next one. -/
def backslash : UInt8 := '\\'.toUInt8

/-- The bare word for `NULL`. -/
def nullWord : Bytes := Bytes.ascii ['N', 'U', 'L', 'L']

/-- Whether a byte ends a bare token. -/
def isSpecial (byte : UInt8) : Bool :=
  byte == quote || byte == opening || byte == closing || byte == comma || byte == backslash

/-- Whether a byte is a blank. -/
def isBlank (byte : UInt8) : Bool := byte == 0x20 || (0x09 ≤ byte && byte ≤ 0x0D)

/-- A byte with a small letter in the place of a capital one. -/
def lower (byte : UInt8) : UInt8 := if 0x41 ≤ byte ∧ byte ≤ 0x5A then byte + 0x20 else byte

/-! ### Writing -/

/-- Whether a token must be quoted. -/
def needsQuotes (token : Bytes) : Bool :=
  token.isEmpty || token.map lower == nullWord.map lower ||
    token.any fun byte => isSpecial byte || isBlank byte

/-- A token between quotes. -/
def quoteToken (token : Bytes) : Bytes :=
  quote :: token.flatMap (fun byte =>
    if byte = quote ∨ byte = backslash then [backslash, byte] else [byte]) ++ [quote]

/-- A token as it stands in the text of an array. -/
def writeToken (token : Bytes) : Bytes := if needsQuotes token then quoteToken token else token

mutual

/-- The text of one element. -/
def writeElement : Element Bytes → Bytes
  | .null => nullWord
  | .value token => writeToken token
  | .array items => opening :: writeElements items ++ [closing]

/-- The texts of elements, with commas between them. -/
def writeElements : List (Element Bytes) → Bytes
  | [] => []
  | [item] => writeElement item
  | item :: next :: items => writeElement item ++ comma :: writeElements (next :: items)

end

/-- The **text** of an array of tokens. -/
def write (items : List (Element Bytes)) : Bytes := writeElement (.array items)

end ArrayText

/-! ## Reading

`PgAdapt.ArrayText.scan` takes the text of an array apart into an array of tokens. Behind the first
brace it is a machine with a stack, `PgAdapt.ArrayText.Machine`, that takes one byte at a time: the
stack holds the arrays that are still open, and the mode says what the next byte belongs to.

A token is a value only if its loader takes it, and an earlier token that is refused hides a later
fault in the text. So a scan that fails also gives the tokens that it has met before it failed:
`PgAdapt.ArrayText.Refusal`.
-/

namespace ArrayText

/-! ### Faults -/

/-- A **fault** in the text of an array. -/
inductive Fault where
  /-- There is no text. -/
  | missingOpening
  /-- An element cannot start with this byte. -/
  | unexpected (byte : UInt8)
  /-- This byte cannot follow an element. -/
  | unexpectedAfter (byte : UInt8)
  /-- An element, written like this, stands outside of any array. -/
  | stray (written : Bytes)
  /-- The text goes on after the array. -/
  | trailing
  /-- The text ends in a quoted token. -/
  | unterminatedToken
  /-- The text ends between a backslash and the byte it belongs to. -/
  | danglingBackslash
  /-- The text ends in an array. -/
  | unterminated
  deriving DecidableEq, Repr

/-- The byte as the character of that number. -/
def shown (byte : UInt8) : String := .singleton (.ofNat byte.toNat)

/-- The wording of a fault. -/
def Fault.message (fault : Fault) : String :=
  "malformed array, " ++ match fault with
  | .missingOpening => "missing '\x7b'"
  | .unexpected byte => "unexpected '" ++ shown byte ++ "'"
  | .unexpectedAfter byte => "unexpected '" ++ shown byte ++ "' after element"
  | .stray written => "unexpected '" ++ Utf8.lossy (written.take 10) ++ "'"
  | .trailing => "trailing data after '\x7d'"
  | .unterminatedToken => "unterminated quoted element"
  | .danglingBackslash => "dangling escape"
  | .unterminated => "unterminated array"

/-- How a scan fails. -/
structure Refusal where
  /-- The tokens of values that were met before, in order. -/
  tokens : List Bytes
  /-- What is wrong. -/
  fault : Fault
  deriving DecidableEq, Repr

/-! ### The machine -/

/-- What the next byte belongs to. Tokens are kept with their last byte first. -/
inductive Mode where
  /-- An element, or the end of the array. -/
  | item
  /-- A bare token. -/
  | bare (token : Bytes)
  /-- A quoted token. -/
  | quoted (token : Bytes)
  /-- A quoted token, after a backslash. -/
  | escaped (token : Bytes)
  /-- What separates an element from what follows. -/
  | after
  /-- Nothing: the outermost array has been closed. -/
  | closed

/-- The **machine** between two bytes. Lists are kept with their last element first. -/
structure Machine where
  /-- The tokens of values so far. -/
  tokens : List Bytes := []
  /-- The elements so far of the arrays around the current one, the innermost array first. -/
  around : List (List (Element Bytes)) := []
  /-- The elements so far of the current array. -/
  items : List (Element Bytes) := []
  /-- What the next byte belongs to. -/
  mode : Mode := .item

namespace Machine

/-- The machine gives up. -/
def refuse {α : Type} (m : Machine) (fault : Fault) : Except Refusal α :=
  .error ⟨m.tokens.reverse, fault⟩

/-- The machine after a `NULL`. -/
def addNull (m : Machine) : Machine := { m with items := .null :: m.items, mode := .after }

/-- The machine after the token of a value. -/
def addToken (m : Machine) (token : Bytes) : Machine :=
  { m with tokens := token :: m.tokens, items := .value token :: m.items, mode := .after }

/-- The machine after a bare token. -/
def addBare (m : Machine) (token : Bytes) : Machine :=
  if token = nullWord then m.addNull else m.addToken token

/-- The machine after the current array has been opened. -/
def enter (m : Machine) : Machine :=
  { m with around := m.items :: m.around, items := [], mode := .item }

/-- The machine after the current array has been closed. -/
def leave (m : Machine) : Machine :=
  match m.around with
  | [] => { m with mode := .closed }
  | outer :: around => { m with around, items := .array m.items.reverse :: outer, mode := .after }

/-- The machine after a byte at which an element may start. -/
def begin (m : Machine) (byte : UInt8) : Except Refusal Machine :=
  if byte = opening then .ok m.enter
  else if byte = closing then .ok m.leave
  else if byte = quote then .ok { m with mode := .quoted [] }
  else if isSpecial byte then m.refuse (.unexpected byte)
  else .ok { m with mode := .bare [byte] }

/-- The machine after a byte behind an element. -/
def separate (m : Machine) (byte : UInt8) : Except Refusal Machine :=
  if byte = comma then .ok { m with mode := .item }
  else if byte = closing then .ok m.leave
  else m.refuse (.unexpectedAfter byte)

/-- The machine after one more byte. -/
def step (m : Machine) (byte : UInt8) : Except Refusal Machine :=
  match m.mode with
  | .item => m.begin byte
  | .bare token =>
    if isSpecial byte then (m.addBare token.reverse).separate byte
    else .ok { m with mode := .bare (byte :: token) }
  | .quoted token =>
    if byte = quote then .ok (m.addToken token.reverse)
    else if byte = backslash then .ok { m with mode := .escaped token }
    else .ok { m with mode := .quoted (byte :: token) }
  | .escaped token => .ok { m with mode := .quoted (byte :: token) }
  | .after => m.separate byte
  | .closed => m.refuse .trailing

/-- The array at the end of the text. -/
def finish (m : Machine) : Except Refusal (List (Element Bytes)) :=
  match m.mode with
  | .item | .after => m.refuse .unterminated
  | .bare token => (m.addBare token.reverse).refuse .unterminated
  | .quoted _ => m.refuse .unterminatedToken
  | .escaped _ => m.refuse .danglingBackslash
  | .closed => .ok m.items.reverse

/-- The array at the end of a text that the machine still has to read. -/
def run (m : Machine) : Bytes → Except Refusal (List (Element Bytes))
  | [] => m.finish
  | byte :: rest =>
    match m.step byte with
    | .ok m => m.run rest
    | .error refusal => .error refusal

end Machine

/-! ### Texts that do not start with an array -/

/-- How a text is refused that starts with a quoted token, behind the quote. `token` and `written`
are what has been read so far, the last byte first; `escaped` says whether a backslash came
last. -/
def refuseQuoted (token written : Bytes) (escaped : Bool) : Bytes → Refusal
  | [] => ⟨[], if escaped then .danglingBackslash else .unterminatedToken⟩
  | byte :: rest =>
    if escaped then refuseQuoted (byte :: token) (byte :: written) false rest
    else if byte = quote then ⟨[token.reverse], .stray (byte :: written).reverse⟩
    else if byte = backslash then refuseQuoted token (byte :: written) true rest
    else refuseQuoted (byte :: token) (byte :: written) false rest

/-- How a text is refused that starts with a bare token. -/
def refuseBare (data : Bytes) : Refusal :=
  let token := data.takeWhile fun byte => !isSpecial byte
  ⟨if token = nullWord then [] else [token], .stray token⟩

/-! ### Scanning -/

/-- The **array of tokens** that a text spells. -/
def scan : Bytes → Except Refusal (List (Element Bytes))
  | [] => .error ⟨[], .missingOpening⟩
  | byte :: rest =>
    if byte = opening then Machine.run {} rest
    else if byte = quote then .error (refuseQuoted [] [byte] false rest)
    else if isSpecial byte then .error ⟨[], .unexpected byte⟩
    else .error (refuseBare (byte :: rest))

end ArrayText

end PgAdapt
