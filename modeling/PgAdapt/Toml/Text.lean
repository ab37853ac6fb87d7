/-!
# Readings of texts

How a text is taken apart from its front, and the texts and keys of a document.
-/

namespace PgAdapt

/-! ## Readings

A **reading** takes something off the front of a text. Readings are put together with `do`, `<|>` –
which goes back to where it started when the first alternative fails – and
`PgAdapt.Toml.Reading.many`, which ends because each round but the last one shortens the text.

Behind them come the parts of a document that carry no content: blank space, ends of lines and
comments.
-/

namespace Toml

/-- A **reading** of an `α` off the front of a text: what was found, and what is left. -/
abbrev Reading (α : Type) : Type := StateT (List Char) Option α

namespace Reading

variable {α : Type}

/-- One character of a class. -/
def one (is : Char → Bool) : Reading Char
  | c :: rest => if is c then some (c, rest) else none
  | [] => none

/-- All characters of a class up to the first other one. -/
def span (is : Char → Bool) : Reading (List Char) := fun text =>
  some (text.takeWhile is, text.dropWhile is)

/-- At least one character of a class, and all up to the first other one. -/
def span1 (is : Char → Bool) : Reading (List Char) := do
  let found ← span is
  if found.isEmpty then failure
  return found

/-- The given characters, which stand for a value. -/
def word (spelling : List Char) (a : α) : Reading α := fun text =>
  if spelling.isPrefixOf text then some (a, text.drop spelling.length) else none

/-- The given character. -/
def mark (c : Char) : Reading Unit := word [c] ()

/-- What a reading finds, again and again until it fails. A round that leaves the text as it is
would be repeated for ever, so it is the last one. -/
def many (r : Reading α) : Reading (List α) := fun text =>
  match r text with
  | none => some ([], text)
  | some (a, rest) =>
    if rest.length < text.length then
      (many r rest).map fun (found, rest) => (a :: found, rest)
    else some ([a], rest)
termination_by text => text.length

/-- What a reading finds between separators, at least once. -/
def separated (separator : Reading Unit) (r : Reading α) : Reading (List α) := do
  let first ← r
  let others ← many do
    separator
    r
  return first :: others

/-- What a reading finds in a text that it takes to the end. -/
def whole? (r : Reading α) (text : List Char) : Option α :=
  match r text with
  | some (a, []) => some a
  | _ => none

end Reading

open Reading

/-! ### What carries no content -/

/-- Whether a character may stand inside a line of text: a tab, or any character that is no control
character of ASCII. -/
def isText (c : Char) : Bool := c = '\t' || (' ' ≤ c && c ≠ '\x7f')

/-- Whether a character is a blank. -/
def isBlank (c : Char) : Bool := c = ' ' || c = '\t'

/-- Blanks, or none. -/
def blanks : Reading Unit := do
  let _ ← span isBlank

/-- The end of a line. -/
def newline : Reading Unit := mark '\n' <|> word ['\r', '\n'] ()

/-- A comment, up to the end of its line. -/
def comment : Reading Unit := do
  mark '#'
  let _ ← span isText

/-- Blanks, ends of lines and comments, or nothing. -/
def space : Reading Unit := do
  let _ ← many do
    (do let _ ← span1 isBlank) <|> newline <|> comment

end Toml

/-! ## Quoted texts and keys

There are four forms of quoted text. Between double quotation marks a backslash starts an escape,
between single ones every character stands for itself; three marks instead of one allow ends of
lines inside. A text in three marks may itself contain one or two marks in a row, also at its end.

A key is a quoted text on one line, or a **bare** word.
-/

namespace Toml

open Reading

/-! ### Escapes -/

/-- The number of a hexadecimal digit of either case. -/
def digitValue (c : Char) : Nat :=
  if c ≤ '9' then c.toNat - '0'.toNat
  else if c ≤ 'F' then c.toNat - 'A'.toNat + 10
  else c.toNat - 'a'.toNat + 10

/-- Whether a character is a hexadecimal digit. -/
def isHexDigit (c : Char) : Bool :=
  c.isDigit || ('a' ≤ c && c ≤ 'f') || ('A' ≤ c && c ≤ 'F')

/-- The number that digits spell to a base. -/
def valueOf (base : Nat) (digits : List Char) : Nat :=
  digits.foldl (fun n c => base * n + digitValue c) 0

/-- The given number of hexadecimal digits. -/
def hexDigits : Nat → Reading (List Char)
  | 0 => return []
  | n + 1 => do
    let first ← one isHexDigit
    let others ← hexDigits n
    return first :: others

/-- The character with the code point that the next digits spell. A surrogate is no character. -/
def codePoint (digits : Nat) : Reading Char := do
  let spelled ← hexDigits digits
  let n := valueOf 16 spelled
  if n.isValidChar then return .ofNat n else failure

/-- An escape: a backslash and what says which character is meant. -/
def escape : Reading Char := do
  mark '\\'
  word ['b'] '\x08' <|> word ['t'] '\t' <|> word ['n'] '\n' <|> word ['f'] '\x0c'
    <|> word ['r'] '\r' <|> word ['"'] '"' <|> word ['\\'] '\\'
    <|> (do mark 'u'; codePoint 4) <|> (do mark 'U'; codePoint 8)

/-! ### Texts on one line -/

/-- A text between two double quotation marks. -/
def basic : Reading (List Char) := do
  mark '"'
  let content ← many (one (fun c => isText c && c ≠ '"' && c ≠ '\\') <|> escape)
  mark '"'
  return content

/-- A text between two single quotation marks. -/
def literal : Reading (List Char) := do
  mark '\''
  let content ← span fun c => isText c && c ≠ '\''
  mark '\''
  return content

/-! ### Texts on several lines -/

/-- A backslash at the end of a line, with all blank space up to the next character. -/
def continuation : Reading (List Char) := do
  mark '\\'
  blanks
  newline
  let _ ← many ((do let _ ← span1 isBlank) <|> newline)
  return []

/-- One or two quotation marks in a row. -/
def fewMarks (quote : Char) : Reading (List Char) := do
  let marks ← span1 (· = quote)
  if marks.length < 3 then return marks else failure

/-- Three quotation marks in a row, after the ones, two at most, that belong to the content. -/
def closing (quote : Char) : Reading (List Char) := do
  let marks ← span1 (· = quote)
  if 3 ≤ marks.length ∧ marks.length ≤ 5 then return marks.drop 3 else failure

/-- A text between three quotation marks and three more. Its pieces are an end of a line, a few
marks, or what else `piece` reads. An end of a line right after the first marks does not belong to
it. -/
def multiline (quote : Char) (piece : Reading (List Char)) : Reading (List Char) := do
  word [quote, quote, quote] ()
  let _ ← optional newline
  let pieces ← many (piece <|> (do newline; return ['\n']) <|> fewMarks quote)
  let final ← closing quote
  return pieces.flatten ++ final

/-- A text between double quotation marks, three at either end. -/
def multilineBasic : Reading (List Char) :=
  multiline '"' (span1 (fun c => isText c && c ≠ '"' && c ≠ '\\') <|> continuation
    <|> (do let c ← escape; return [c]))

/-- A text between single quotation marks, three at either end. -/
def multilineLiteral : Reading (List Char) :=
  multiline '\'' (span1 fun c => isText c && c ≠ '\'')

/-- A quoted text of any form. -/
def quotedText : Reading (List Char) := multilineBasic <|> multilineLiteral <|> basic <|> literal

/-! ### Keys -/

/-- Whether a character may stand in a bare word. -/
def isBare (c : Char) : Bool := c.isAlphanum || c = '_' || c = '-'

/-- A key. -/
def key : Reading String := do
  let spelled ← span1 isBare <|> basic <|> literal
  return .ofList spelled

/-- The number of keys in a row at which a path is refused. -/
def pathLimit : Nat := 80

/-- A **path**: keys with dots between them and blanks around them. -/
def path : Reading (List String) := do
  let keys ← separated (mark '.') do
    blanks
    let k ← key
    blanks
    return k
  if keys.length < pathLimit then return keys else failure

end Toml

end PgAdapt
