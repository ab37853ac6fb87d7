import PgAdapt.Value

/-!
# Floating-point numbers

Binary floating-point numbers as words of their bits, and how they are written and read in decimal.
Everything is worked out in whole numbers.
-/

namespace PgAdapt

/-! ## Bits

A word of a floating-point type is a sign, an exponent and a fraction. `PgAdapt.Floating.ofWord`
takes a word apart: a finite number is `± mantissa · 2 ^ exponent`, with the mantissa a whole
number. `PgAdapt.Floating.finiteWord` puts a number together again, and
`PgAdapt.Floating.infinityWord` and `PgAdapt.Floating.nanWord` are the words that stand for no
number.
-/

/-- The number of bits of the fraction. -/
def FloatType.fractionBits : FloatType → Nat
  | .single => 23
  | .double => 52

/-- The number of bits of the exponent. -/
def FloatType.exponentBits : FloatType → Nat
  | .single => 8
  | .double => 11

/-- The least exponent of a mantissa. -/
def FloatType.leastExponent : FloatType → Int
  | .single => -149
  | .double => -1074

/-- What a **floating-point number** is. -/
inductive Floating where
  /-- No number. -/
  | nan
  /-- An infinity. -/
  | infinite (negative : Bool)
  /-- The number `± mantissa · 2 ^ exponent`. -/
  | finite (negative : Bool) (mantissa : Nat) (exponent : Int)
  deriving DecidableEq, Repr

namespace Floating

/-- The exponent that marks the words of no finite number. -/
def topExponent (t : FloatType) : Nat := Nat.pow 2 t.exponentBits - 1

/-- What a word stands for. -/
def ofWord (t : FloatType) (word : t.Word) : Floating :=
  let bits := word.toNat
  let fraction := bits % Nat.pow 2 t.fractionBits
  let exponent := bits / Nat.pow 2 t.fractionBits % Nat.pow 2 t.exponentBits
  let negative := word.msb
  if exponent = topExponent t then
    if fraction = 0 then .infinite negative else .nan
  else if exponent = 0 then .finite negative fraction t.leastExponent
  else .finite negative (Nat.pow 2 t.fractionBits + fraction) (t.leastExponent + exponent - 1)

/-- The word with given magnitude bits and sign. -/
def signedWord (t : FloatType) (negative : Bool) (magnitude : Nat) : t.Word :=
  .ofNat _ (magnitude + if negative then Nat.pow 2 (t.fractionBits + t.exponentBits) else 0)

/-- The word of an infinity. -/
def infinityWord (t : FloatType) (negative : Bool) : t.Word :=
  signedWord t negative (topExponent t * Nat.pow 2 t.fractionBits)

/-- The word of no number, with the first bit of the fraction set and no other. -/
def nanWord (t : FloatType) (negative : Bool) : t.Word :=
  signedWord t negative (topExponent t * Nat.pow 2 t.fractionBits + Nat.pow 2 (t.fractionBits - 1))

/-- The word of `± mantissa · 2 ^ (leastExponent + shift)`, where the mantissa has at most one bit
more than the fraction and exactly so many unless `shift` is zero; a number too great for the type
becomes an infinity. -/
def finiteWord (t : FloatType) (negative : Bool) (mantissa shift : Nat) : t.Word :=
  let magnitude := shift * Nat.pow 2 t.fractionBits + mantissa
  if topExponent t * Nat.pow 2 t.fractionBits ≤ magnitude then infinityWord t negative
  else signedWord t negative magnitude

end Floating

/-! ## The shortest decimal that reads back

The reals that round to a given floating-point number form an interval around it, with its ends if
the mantissa is even. Among the decimals in the interval, `PgAdapt.Floating.shortest` takes one
with the fewest digits, and of these the nearest to the number. If some multiple of `10 ^ k` lies
in the interval at all, then so does one of the two next to the number, so it is enough to look at
these two, for descending `k`, in whole numbers.
-/

namespace Floating

/-- The decimal `digits · 10 ^ exponent`. -/
structure Decimal where
  digits : Nat
  exponent : Int
  deriving DecidableEq, Repr

/-- Which of two decimals is taken when both are equally near. -/
inductive Tie where
  /-- The greater one. -/
  | up
  /-- The one with an even last digit. -/
  | even
  deriving DecidableEq, Repr

/-- An **interval** of reals around a number: all three are given in units of `1 / scale`. -/
structure Interval where
  low : Nat
  middle : Nat
  high : Nat
  scale : Nat
  /-- Whether the ends belong to the interval. -/
  closed : Bool

/-- The reals that round to `mantissa · 2 ^ exponent`. Below the least mantissa of full length the
numbers lie twice as close. -/
def interval (t : FloatType) (mantissa : Nat) (exponent : Int) : Interval :=
  let unit := Nat.pow 2 exponent.toNat
  let narrow := mantissa = Nat.pow 2 t.fractionBits ∧ t.leastExponent < exponent
  { low := (4 * mantissa - if narrow then 1 else 2) * unit
    middle := 4 * mantissa * unit
    high := (4 * mantissa + 2) * unit
    scale := 4 * Nat.pow 2 (-exponent).toNat
    closed := mantissa % 2 = 0 }

/-- The multiple of `10 ^ exponent` in an interval that is nearest to its middle, if there is
one. -/
def Interval.nearest? (i : Interval) (tie : Tie) (exponent : Int) : Option Nat :=
  let step := i.scale * Nat.pow 10 exponent.toNat
  let factor := Nat.pow 10 (-exponent).toNat
  let isInside (n : Nat) : Bool :=
    if i.closed then i.low * factor ≤ n * step && n * step ≤ i.high * factor
    else i.low * factor < n * step && n * step < i.high * factor
  let below := i.middle * factor / step
  let rest := i.middle * factor % step
  match isInside below, isInside (below + 1) with
  | false, false => none
  | true, false => some below
  | false, true => some (below + 1)
  | true, true =>
    if 2 * rest < step then some below
    else if step < 2 * rest then some (below + 1)
    else match tie with
      | .up => some (below + 1)
      | .even => some (if below % 2 = 0 then below else below + 1)

/-- The number of decimal digits of a natural number. -/
def length (n : Nat) : Nat := (Nat.toDigits 10 n).length

/-- An exponent so great that no multiple of its power of ten but zero lies in an interval. -/
def Interval.top (i : Interval) : Int :=
  if i.scale ≤ i.high then length (i.high / i.scale) else 2 - (length (i.scale / i.high) : Int)

/-- The **shortest decimal** that rounds to `mantissa · 2 ^ exponent`. -/
def shortest (t : FloatType) (tie : Tie) (mantissa : Nat) (exponent : Int) : Decimal :=
  if mantissa = 0 then ⟨0, 0⟩ else
  let i := interval t mantissa exponent
  let found := (List.range 32).findSome? fun (n : Nat) =>
    (i.nearest? tie (i.top - n)).map (Decimal.mk · (i.top - n))
  found.getD ⟨0, 0⟩

end Floating

/-! ## Writing

`PgAdapt.Floating.Style.write` writes a number with the digits of its shortest decimal. What is
left to decide is collected in a `PgAdapt.Floating.Style`: `PgAdapt.Floating.Style.plain` always
writes the digits around the point, `PgAdapt.Floating.Style.compact` uses powers of ten where the
digits would lie far from it.
-/

namespace Floating

/-- A **style** of writing numbers. -/
structure Style where
  /-- Which of two equally near decimals is taken. -/
  tie : Tie
  /-- The least and the greatest number of digits before the point for which no power of ten is
  written, where there are such bounds. -/
  positional : Option (Int × Int)
  /-- Whether a whole number gets a fraction of zero. -/
  zeroFraction : Bool

namespace Style

/-- Digits around the point, whatever their number. Of two decimals the greater one is taken, and
whole numbers stay bare. -/
def plain : Style := ⟨.up, none, false⟩

/-- Powers of ten for very great and very small numbers. Of two decimals the even one is taken, and
whole numbers get a fraction. -/
def compact : FloatType → Style
  | .single => ⟨.even, some (-5, 13), true⟩
  | .double => ⟨.even, some (-4, 16), true⟩

/-- Whether a number with its point after `point` digits is written without a power of ten. -/
def isPositional (style : Style) (point : Int) : Bool :=
  match style.positional with
  | none => true
  | some (least, greatest) => least ≤ point && point ≤ greatest

/-- Digits with the point after `point` of them. -/
def around (style : Style) (digits : List Char) (point : Int) : List Char :=
  if point ≤ 0 then ['0', '.'] ++ List.replicate (-point).toNat '0' ++ digits
  else
    let whole := digits.take point.toNat
    let fraction := digits.drop point.toNat
    whole ++ List.replicate (point.toNat - whole.length) '0' ++
      if fraction.isEmpty then (if style.zeroFraction then ['.', '0'] else [])
      else '.' :: fraction

/-- Digits with the point after the first of them, and the power of ten that moves it to where it
belongs, after `point` digits. -/
def scientific (digits : List Char) (point : Int) : List Char :=
  let fraction := digits.drop 1
  digits.take 1 ++ (if fraction.isEmpty then [] else '.' :: fraction) ++ ['e'] ++
    (toString (point - 1)).toList

/-- A decimal in a style. -/
def digitsOf (style : Style) (decimal : Decimal) : List Char :=
  let digits := Nat.toDigits 10 decimal.digits
  let point : Int := digits.length + decimal.exponent
  if style.isPositional point then style.around digits point else scientific digits point

/-- The **text of a floating-point number** in a style. -/
def write (style : Style) (t : FloatType) (word : t.Word) : Bytes :=
  Bytes.ascii <| match Floating.ofWord t word with
  | .nan => ['N', 'a', 'N']
  | .infinite negative =>
    (if negative then ['-'] else []) ++ ['I', 'n', 'f', 'i', 'n', 'i', 't', 'y']
  | .finite negative mantissa exponent =>
    (if negative then ['-'] else []) ++ style.digitsOf (shortest t style.tie mantissa exponent)

end Style

end Floating

/-! ## Reading

`PgAdapt.Floating.read?` reads the three words that stand for no finite number, in the spelling
that the server uses, and otherwise hands over to `PgAdapt.Floating.number?`, which reads a
decimal with an optional power of ten – or `inf`, `infinity` and `nan` in any spelling – and
rounds it to the nearest number of the type: `PgAdapt.Floating.round`.
-/

namespace Floating

/-! ### Rounding -/

/-- The quotient of two natural numbers, rounded to the nearest one; of two equally near ones the
even one is taken. -/
def divideEven (numerator denominator : Nat) : Nat :=
  let quotient := numerator / denominator
  let rest := numerator % denominator
  if 2 * rest < denominator then quotient
  else if denominator < 2 * rest then quotient + 1
  else quotient + quotient % 2

/-- The number of a type nearest to `± numerator / denominator`. The mantissa gets as many bits as
the type has room for, or less where the least exponent is reached. -/
def round (t : FloatType) (negative : Bool) (numerator denominator : Nat) : t.Word :=
  let scaled := numerator * Nat.pow 2 (-t.leastExponent).toNat
  let size := (scaled / denominator).log2
  let shift := size - t.fractionBits
  finiteWord t negative (divideEven scaled (denominator * Nat.pow 2 shift)) shift

/-! ### Decimals -/

/-- A decimal: `± digits · 10 ^ exponent`. -/
structure Scientific where
  negative : Bool
  digits : Nat
  exponent : Int
  deriving DecidableEq, Repr

/-- A bound on the exponents that are worked out. A number whose first digit lies farther from the
point than this is beyond the range of every type. -/
def farthest : Int := 400

/-- The number of a type nearest to a decimal. -/
def Scientific.toWord (t : FloatType) (s : Scientific) : t.Word :=
  let first : Int := (Nat.toDigits 10 s.digits).length + s.exponent
  if s.digits = 0 ∨ first < -farthest then signedWord t s.negative 0
  else if farthest < first then infinityWord t s.negative
  else round t s.negative (s.digits * Nat.pow 10 s.exponent.toNat)
    (Nat.pow 10 (-s.exponent).toNat)

/-- Whether a byte is a decimal digit. -/
def isDigit (byte : UInt8) : Bool := 0x30 ≤ byte && byte ≤ 0x39

/-- The number that digits spell. -/
def valueOf (digits : Bytes) : Nat :=
  digits.foldl (fun n byte => 10 * n + (byte.toNat - 0x30)) 0

/-- The power of ten at the end of a decimal; nothing stands for no power. -/
def power? : Bytes → Option Int
  | [] => some 0
  | mark :: rest =>
    if mark = 'e'.toUInt8 ∨ mark = 'E'.toUInt8 then
      let (negative, digits) := match rest with
        | 0x2D :: digits => (true, digits)
        | 0x2B :: digits => (false, digits)
        | digits => (false, digits)
      if digits.isEmpty || !digits.all isDigit then none
      else if negative then some (-valueOf digits) else some (valueOf digits)
    else none

/-- The decimal that a text without a sign spells: digits with a point before, between or behind
them, or with none, and then a power of ten. There is at least one digit. -/
def decimal? (negative : Bool) (text : Bytes) : Option Scientific :=
  let whole := text.takeWhile isDigit
  let (fraction, rest) := match text.dropWhile isDigit with
    | 0x2E :: rest => (rest.takeWhile isDigit, rest.dropWhile isDigit)
    | rest => ([], rest)
  if whole.isEmpty && fraction.isEmpty then none
  else (power? rest).map fun power =>
    ⟨negative, valueOf (whole ++ fraction), power - fraction.length⟩

/-- A byte with a small letter in the place of a capital one. -/
def lower (byte : UInt8) : UInt8 := if 0x41 ≤ byte ∧ byte ≤ 0x5A then byte + 0x20 else byte

/-- The infinity, or the word of no number, that a text without a sign names in any spelling. -/
def named? (t : FloatType) (negative : Bool) (text : Bytes) : Option t.Word :=
  let name := text.map lower
  if name = Bytes.ascii ['n', 'a', 'n'] then some (nanWord t negative)
  else if name = Bytes.ascii ['i', 'n', 'f'] ∨
      name = Bytes.ascii ['i', 'n', 'f', 'i', 'n', 'i', 't', 'y'] then
    some (infinityWord t negative)
  else none

/-- The number that a text spells. -/
def number? (t : FloatType) (text : Bytes) : Option t.Word :=
  let (negative, rest) := match text with
    | 0x2D :: rest => (true, rest)
    | 0x2B :: rest => (false, rest)
    | rest => (false, rest)
  match decimal? negative rest with
  | some s => some (s.toWord t)
  | none => named? t negative rest

/-- The word that the server's spelling of `NaN` or of an infinity stands for. -/
def special? (t : FloatType) (text : Bytes) : Option t.Word :=
  if text = Bytes.ascii ['N', 'a', 'N'] then some (nanWord t false)
  else if text = Bytes.ascii ['I', 'n', 'f', 'i', 'n', 'i', 't', 'y'] then
    some (infinityWord t false)
  else if text = Bytes.ascii ['-', 'I', 'n', 'f', 'i', 'n', 'i', 't', 'y'] then
    some (infinityWord t true)
  else none

/-- The **floating-point number** that a text from the server spells. -/
def read? (t : FloatType) (text : Bytes) : Option t.Word :=
  special? t text <|> number? t text

end Floating

end PgAdapt
