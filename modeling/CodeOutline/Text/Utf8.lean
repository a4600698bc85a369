/-
Bytes as text.

Bytes are cut into pieces: characters, and runs of bytes that are no character.  A run is as long as
it could have been the start of a character, and at least one byte.  A run at the very end that
might have gone on is cut short.
-/

namespace CodeOutline.Text

/-- The bytes of a text. -/
def bytesOf (s : String) : List UInt8 := s.toUTF8.toList

/-- Why bytes are not a text: the place of the first fault. -/
inductive Utf8Fault where
  | invalid (index length : Nat)
  | incomplete (index : Nat)
deriving DecidableEq, Repr

/-- The words for the fault. -/
def Utf8Fault.message : Utf8Fault → String
  | .invalid index length =>
    "invalid utf-8 sequence of " ++ toString length ++ " bytes from index " ++ toString index
  | .incomplete index => "incomplete utf-8 byte sequence from index " ++ toString index

namespace Utf8

/-- A piece of a sequence of bytes. -/
inductive Piece where
  | char (c : Char)
  /-- A run of bytes that is no character. -/
  | bad (length : Nat)
  /-- A run of bytes at the end that is no character yet. -/
  | cut (length : Nat)

/-- A character of which some bytes have been read: their number, the number of those that are still
to come, the range of the next one, and the bits so far. -/
structure Pending where
  length : Nat
  owed : Nat
  low : Nat
  high : Nat
  bits : Nat

/-- The start of a character of several bytes. -/
def lead? (b : Nat) : Option Pending :=
  if 0xC2 ≤ b ∧ b ≤ 0xDF then some ⟨1, 1, 0x80, 0xBF, b % 0x20⟩
  else if b = 0xE0 then some ⟨1, 2, 0xA0, 0xBF, 0⟩
  else if b = 0xED then some ⟨1, 2, 0x80, 0x9F, b % 0x10⟩
  else if 0xE1 ≤ b ∧ b ≤ 0xEF then some ⟨1, 2, 0x80, 0xBF, b % 0x10⟩
  else if b = 0xF0 then some ⟨1, 3, 0x90, 0xBF, 0⟩
  else if 0xF1 ≤ b ∧ b ≤ 0xF3 then some ⟨1, 3, 0x80, 0xBF, b % 0x08⟩
  else if b = 0xF4 then some ⟨1, 3, 0x80, 0x8F, b % 0x08⟩
  else none

/-- What has been read: the pieces, last first, and the start of the next character. -/
structure Decoder where
  pieces : List Piece := []
  pending : Option Pending := none

/-- Reads the first byte of a character. -/
def Decoder.first (pieces : List Piece) (b : Nat) : Decoder :=
  if b < 0x80 then ⟨.char (Char.ofNat b) :: pieces, none⟩
  else
    match lead? b with
    | some p => ⟨pieces, some p⟩
    | none => ⟨.bad 1 :: pieces, none⟩

/-- Reads a byte. -/
def Decoder.step (d : Decoder) (byte : UInt8) : Decoder :=
  let b := byte.toNat
  match d.pending with
  | none => Decoder.first d.pieces b
  | some p =>
    if p.low ≤ b ∧ b ≤ p.high then
      let bits := p.bits * 0x40 + b % 0x40
      if p.owed = 1 then ⟨.char (Char.ofNat bits) :: d.pieces, none⟩
      else ⟨d.pieces, some ⟨p.length + 1, p.owed - 1, 0x80, 0xBF, bits⟩⟩
    else Decoder.first (.bad p.length :: d.pieces) b

/-- The pieces of a sequence of bytes. -/
def pieces (bytes : List UInt8) : List Piece :=
  let d := bytes.foldl Decoder.step {}
  match d.pending with
  | some p => (.cut p.length :: d.pieces).reverse
  | none => d.pieces.reverse

/-- The character that stands for a run of bytes that is no character. -/
def replacement : Char := '�'

/-- The text of bytes, with a replacement for each run that is no character. -/
def lossy (bytes : List UInt8) : String :=
  String.ofList ((pieces bytes).map fun
    | .char c => c
    | .bad _ => replacement
    | .cut _ => replacement)

/-- The characters of pieces that start at an index, collected backwards. -/
def charsOf : Nat → List Char → List Piece → Except Utf8Fault (List Char)
  | _, acc, [] => .ok acc.reverse
  | index, acc, .char c :: rest => charsOf (index + c.utf8Size) (c :: acc) rest
  | index, _, .bad length :: _ => .error (.invalid index length)
  | index, _, .cut _ :: _ => .error (.incomplete index)

/-- The text of bytes. -/
def decode (bytes : List UInt8) : Except Utf8Fault String :=
  (charsOf 0 [] (pieces bytes)).map String.ofList

end Utf8

/-- The characters that are trimmed from the ends of a text. -/
def isSpace (c : Char) : Bool :=
  let n := c.toNat
  (0x09 ≤ n && n ≤ 0x0D) || n == 0x20 || n == 0x85 || n == 0xA0 || n == 0x1680 ||
    (0x2000 ≤ n && n ≤ 0x200A) || n == 0x2028 || n == 0x2029 || n == 0x202F || n == 0x205F ||
    n == 0x3000

/-- A text without the blanks at its ends. -/
def trim (s : String) : String :=
  String.ofList ((s.toList.dropWhile isSpace).reverse.dropWhile isSpace).reverse

end CodeOutline.Text
