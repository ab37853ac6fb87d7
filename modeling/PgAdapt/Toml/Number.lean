import PgAdapt.Floating
import PgAdapt.Toml.Text

/-!
# Numbers and moments of a document

The values of a document that are neither texts nor made of other values.
-/

namespace PgAdapt

/-! ## Numbers

A whole number is written in decimal digits, with a sign if need be and without a zero in front,
or to base sixteen, eight or two after a mark that tells the base. A floating-point number has a
fraction, a power of ten, or both, or is a word. Single underscores may stand between the digits.

A whole number has to fit into eight bytes, and a positive decimal must not be too great for a
floating-point number.
-/

namespace Toml

open Reading

/-- Digits of a class, with single underscores between them. -/
def digits (is : Char → Bool) : Reading (List Char) := do
  let first ← one is
  let others ← many do
    let _ ← optional (mark '_')
    one is
  return first :: others

/-- A sign; none means the same as a plus. The result is whether it is a minus. -/
def sign : Reading Bool := word ['-'] true <|> word ['+'] false <|> pure false

/-- Decimal digits without a zero in front. -/
def plainDigits : Reading (List Char) := do
  let spelled ← digits Char.isDigit
  if spelled.head? = '0' ∧ 1 < spelled.length then failure
  return spelled

/-! ### Whole numbers -/

/-- A number to another base than ten. -/
def toBase (letter : Char) (base : Nat) (is : Char → Bool) : Reading Int := do
  word ['0', letter] ()
  let spelled ← digits is
  return valueOf base spelled

/-- A number to base ten. -/
def decimal : Reading Int := do
  let negative ← sign
  let spelled ← plainDigits
  let n := valueOf 10 spelled
  return if negative then -(n : Int) else n

/-- A **whole number**. -/
def integer : Reading Int := do
  let n ← toBase 'x' 16 isHexDigit
    <|> toBase 'o' 8 (fun c => '0' ≤ c && c ≤ '7')
    <|> toBase 'b' 2 (fun c => c = '0' || c = '1')
    <|> decimal
  if (IntType.int64.ofInt? n).isSome then return n else failure

/-! ### Floating-point numbers -/

/-- A floating-point number in eight bytes. -/
abbrev Double : Type := FloatType.double.Word

/-- The digits of a fraction, after a point. -/
def fraction : Reading (List Char) := do
  mark '.'
  digits Char.isDigit

/-- A power of ten. -/
def power : Reading Int := do
  mark 'e' <|> mark 'E'
  let negative ← sign
  let spelled ← digits Char.isDigit
  let n := valueOf 10 spelled
  return if negative then -(n : Int) else n

/-- A decimal that is no whole number as it is written. -/
def decimalFloat : Reading Double := do
  let negative ← sign
  let spelled ← plainDigits
  let (behind, exponent) ←
    (do
      let exponent ← power
      return ([], exponent)) <|>
    (do
      let behind ← fraction
      let exponent ← power <|> pure 0
      return (behind, exponent))
  let read := Floating.Scientific.toWord .double
    ⟨negative, valueOf 10 (spelled ++ behind), exponent - behind.length⟩
  if read = Floating.infinityWord .double false then failure
  return read

/-- A word for a floating-point number that no decimal spells. -/
def specialFloat : Reading Double := do
  let negative ← sign
  word ['i', 'n', 'f'] (Floating.infinityWord .double negative)
    <|> word ['n', 'a', 'n'] (Floating.nanWord .double negative)

/-- A **floating-point number**. -/
def float : Reading Double := decimalFloat <|> specialFloat

end Toml

/-! ## Dates and times of day

A **moment** is a day of the calendar, a time of day, or both with a `T` or a blank between them
and perhaps the distance from universal time. A document with a day that the calendar does not
have is no document.
-/

namespace Toml

open Reading

/-- A number of as many digits as are asked for, within bounds. -/
def within (digits least greatest : Nat) : Reading Nat := do
  let spelled ← (List.range digits).mapM fun _ => one Char.isDigit
  let n := valueOf 10 spelled
  if least ≤ n ∧ n ≤ greatest then return n else failure

/-- Whether a year has a day more. -/
def isLeap (year : Nat) : Bool := year % 4 = 0 && (year % 100 ≠ 0 || year % 400 = 0)

/-- The number of days of a month. -/
def daysIn (year month : Nat) : Nat :=
  if month = 2 then if isLeap year then 29 else 28
  else if month = 4 ∨ month = 6 ∨ month = 9 ∨ month = 11 then 30
  else 31

/-- A day of the calendar. -/
def day : Reading Unit := do
  let year ← within 4 0 9999
  mark '-'
  let month ← within 2 1 12
  mark '-'
  let _ ← within 2 1 (daysIn year month)

/-- An hour and a minute. -/
def hourAndMinute : Reading Unit := do
  let _ ← within 2 0 23
  mark ':'
  let _ ← within 2 0 59

/-- A time of day, to any fraction of a second. The second may be an inserted one. -/
def timeOfDay : Reading Unit := do
  hourAndMinute
  mark ':'
  let _ ← within 2 0 60
  let _ ← optional do
    mark '.'
    span1 Char.isDigit

/-- The distance from universal time. -/
def distance : Reading Unit :=
  mark 'Z' <|> mark 'z' <|> do
    mark '+' <|> mark '-'
    hourAndMinute

/-- A **moment**. -/
def moment : Reading Unit := onDay <|> timeOfDay
where
  /-- A day, and perhaps a time on it. -/
  onDay : Reading Unit := do
    day
    let _ ← optional do
      mark 'T' <|> mark 't' <|> mark ' '
      timeOfDay
      optional distance

end Toml

end PgAdapt
