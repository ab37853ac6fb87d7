import PgAdapt.Bytes

/-!
# Text in UTF-8

`PgAdapt.Utf8.pieces` splits any string of bytes into characters and **broken parts**: a broken part
is as long as it can be while it still starts a character, and one byte long where no character
starts. The other readings all look at the pieces only:

* `PgAdapt.Utf8.decode` gives the text if there is no broken part, and where the first one is if
  there is;
* `PgAdapt.Utf8.takeOver` looks for the first broken part only, and if there is none, makes the
  bytes as they are those of a text;
* `PgAdapt.Utf8.lossy` puts the replacement character in the place of each broken part.
-/

namespace PgAdapt

namespace Utf8

/-- The bytes of a text. -/
def encode (text : String) : Bytes := text.toList.flatMap String.utf8EncodeChar

/-- A **piece** of a string of bytes. -/
inductive Piece where
  /-- The bytes of one character. -/
  | char (c : Char)
  /-- Bytes that start a character, or that cannot, before a byte that does not go on with it. -/
  | broken (length : Nat)
  /-- Bytes that start a character, at the end of the string. -/
  | cutOff (length : Nat)
  deriving DecidableEq, Repr

/-- What the first byte of a character of two bytes or more announces. -/
structure Lead where
  /-- The number of bytes that follow. -/
  tails : Nat
  /-- The bits of the character that the first byte holds. -/
  bits : Nat
  /-- The least byte that may come second. -/
  least : UInt8
  /-- The greatest byte that may come second. -/
  greatest : UInt8

/-- The announcement of a first byte, if it is one. The bounds on the second byte shut out
characters that a shorter string spells, surrogates, and numbers beyond the last character. -/
def lead? (byte : UInt8) : Option Lead :=
  if byte < 0xC2 then none
  else if byte < 0xE0 then some ⟨1, byte.toNat - 0xC0, 0x80, 0xBF⟩
  else if byte < 0xF0 then
    some ⟨2, byte.toNat - 0xE0, if byte = 0xE0 then 0xA0 else 0x80,
      if byte = 0xED then 0x9F else 0xBF⟩
  else if byte < 0xF5 then
    some ⟨3, byte.toNat - 0xF0, if byte = 0xF0 then 0x90 else 0x80,
      if byte = 0xF4 then 0x8F else 0xBF⟩
  else none

/-- Whether a byte may follow as the third or fourth of a character. -/
def isTail (byte : UInt8) : Bool := 0x80 ≤ byte && byte ≤ 0xBF

/-- The bits of a character after one more byte. -/
def extend (bits : Nat) (tail : UInt8) : Nat := 64 * bits + (tail.toNat - 0x80)

/-- The **pieces** of a string of bytes, in order. -/
def pieces : Bytes → List Piece
  | [] => []
  | first :: rest =>
    if first < 0x80 then .char (.ofNat first.toNat) :: pieces rest
    else match lead? first with
    | none => .broken 1 :: pieces rest
    | some lead =>
      match rest with
      | [] => [.cutOff 1]
      | second :: afterSecond =>
        if lead.least ≤ second ∧ second ≤ lead.greatest then
          let two := extend lead.bits second
          if lead.tails = 1 then .char (.ofNat two) :: pieces afterSecond
          else match afterSecond with
          | [] => [.cutOff 2]
          | third :: afterThird =>
            if isTail third then
              let three := extend two third
              if lead.tails = 2 then .char (.ofNat three) :: pieces afterThird
              else match afterThird with
              | [] => [.cutOff 3]
              | fourth :: afterFourth =>
                if isTail fourth then .char (.ofNat (extend three fourth)) :: pieces afterFourth
                else .broken 3 :: pieces (fourth :: afterFourth)
            else .broken 2 :: pieces (third :: afterThird)
        else .broken 1 :: pieces (second :: afterSecond)

/-! ### Strict reading -/

/-- The first **fault** of a string that is not UTF-8. -/
inductive Fault where
  /-- A broken part of `length` bytes starts at `index`. -/
  | invalid (length index : Nat)
  /-- The string ends inside the character that starts at `index`. -/
  | incomplete (index : Nat)
  deriving DecidableEq, Repr

/-- The wording of a fault. -/
def Fault.message : Fault → String
  | .invalid length index =>
    "invalid utf-8 sequence of " ++ toString length ++ " bytes from index " ++ toString index
  | .incomplete index => "incomplete utf-8 byte sequence from index " ++ toString index

/-- The characters of the pieces, up to the first fault; `index` bytes came before. -/
def characters (index : Nat) : List Piece → Except Fault (List Char)
  | [] => .ok []
  | .char c :: rest => (characters (index + (String.utf8EncodeChar c).length) rest).map (c :: ·)
  | .broken length :: _ => .error (.invalid length index)
  | .cutOff _ :: _ => .error (.incomplete index)

/-- The text that a string of bytes spells, or its first fault. -/
def decode (bytes : Bytes) : Except Fault String :=
  (characters 0 (pieces bytes)).map String.ofList

/-- The text that a string of bytes spells, if it is UTF-8. -/
def decode? (bytes : Bytes) : Option String := (decode bytes).toOption

/-- The first fault of the pieces, if there is one; `index` bytes came before. -/
def fault? (index : Nat) : List Piece → Option Fault
  | [] => none
  | .char c :: rest => fault? (index + (String.utf8EncodeChar c).length) rest
  | .broken length :: _ => some (.invalid length index)
  | .cutOff _ :: _ => some (.incomplete index)

/-- The text that **takes over** a string of bytes, once the bytes have been checked. -/
def takeOver (bytes : Bytes) : Except Fault String :=
  match fault? 0 (pieces bytes) with
  | some fault => .error fault
  | none => .ok (String.fromUTF8! bytes.toByteArray)

/-! ### Lenient reading -/

/-- The character in the place of a broken part. -/
def replacement : Char := '\uFFFD'

/-- The character that stands for a piece. -/
def Piece.shown : Piece → Char
  | .char c => c
  | .broken _ | .cutOff _ => replacement

/-- The text of a string of bytes, each broken part replaced by one character. -/
def lossy (bytes : Bytes) : String := .ofList ((pieces bytes).map Piece.shown)

end Utf8

end PgAdapt
