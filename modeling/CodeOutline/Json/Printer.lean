/-
Writing JSON texts.

A layout says what stands between the parts of a container: nothing at all, or line breaks with two
blanks for every level and a blank after each colon.  Empty containers have nothing between their
brackets in either layout.

Strings escape the quote, the backslash and the characters below U+0020, and nothing else.  The
functions write their text in front of a given rest, so that writing is linear in the length of the
text.
-/
import CodeOutline.Json.Basic
import CodeOutline.Decimal.Shortest

namespace CodeOutline.Json

/-- How a text is laid out. -/
inductive Layout where
  | compact
  | pretty
deriving DecidableEq, Repr

namespace Layout

/-- What stands before an item or a closing bracket at the given level. -/
def lineBreak : Layout → Nat → List Char
  | .compact, _ => []
  | .pretty, level => '\n' :: List.replicate (2 * level) ' '

/-- What stands between a key and its value. -/
def colon : Layout → List Char
  | .compact => [':']
  | .pretty => [':', ' ']

end Layout

/-- A hexadecimal digit. -/
def hexDigit (n : Nat) : Char := if n < 10 then Char.ofNat (48 + n) else Char.ofNat (87 + n)

/-- A character inside a string. -/
def escape (c : Char) : List Char :=
  match c with
  | '"' => ['\\', '"']
  | '\\' => ['\\', '\\']
  | '\x08' => ['\\', 'b']
  | '\t' => ['\\', 't']
  | '\n' => ['\\', 'n']
  | '\x0c' => ['\\', 'f']
  | '\r' => ['\\', 'r']
  | c =>
    if c < ' ' then ['\\', 'u', '0', '0', hexDigit (c.toNat / 16), hexDigit (c.toNat % 16)] else [c]

/-- Writes a string in front of a text. -/
def writeString (s : String) (rest : List Char) : List Char :=
  '"' :: s.toList.foldr (fun c text => escape c ++ text) ('"' :: rest)

/-- Writes a number in front of a text. -/
def writeNumber (n : Number) (rest : List Char) : List Char :=
  match n with
  | .int (.ofNat n) => Nat.toDigits 10 n ++ rest
  | .int (.negSucc n) => '-' :: Nat.toDigits 10 (n + 1) ++ rest
  | .float x => x.text.toList ++ rest

/-- Writes a word in front of a text. -/
def writeWord (word : String) (rest : List Char) : List Char := word.toList ++ rest

mutual

/-- Writes a value in front of a text.  The level counts the containers around the value. -/
def write (layout : Layout) (level : Nat) : Json → List Char → List Char
  | .null, rest => writeWord "null" rest
  | .bool true, rest => writeWord "true" rest
  | .bool false, rest => writeWord "false" rest
  | .number n, rest => writeNumber n rest
  | .string s, rest => writeString s rest
  | .array [], rest => '[' :: ']' :: rest
  | .array (v :: vs), rest =>
    '[' :: layout.lineBreak (level + 1) ++ write layout (level + 1) v
      (writeItems layout level vs rest)
  | .object [], rest => '\x7b' :: '\x7d' :: rest
  | .object ((k, v) :: ms), rest =>
    '\x7b' :: layout.lineBreak (level + 1) ++
      writeString k (layout.colon ++ write layout (level + 1) v (writeMembers layout level ms rest))

/-- Writes the items after the first one, and the closing bracket. -/
def writeItems (layout : Layout) (level : Nat) : List Json → List Char → List Char
  | [], rest => layout.lineBreak level ++ ']' :: rest
  | v :: vs, rest =>
    ',' :: layout.lineBreak (level + 1) ++ write layout (level + 1) v
      (writeItems layout level vs rest)

/-- Writes the members after the first one, and the closing brace. -/
def writeMembers (layout : Layout) (level : Nat) : List (String × Json) → List Char → List Char
  | [], rest => layout.lineBreak level ++ '\x7d' :: rest
  | (k, v) :: ms, rest =>
    ',' :: layout.lineBreak (level + 1) ++
      writeString k (layout.colon ++ write layout (level + 1) v (writeMembers layout level ms rest))

end

/-- The text of a value. -/
def print (layout : Layout) (v : Json) : String := String.ofList (write layout 0 v [])

end CodeOutline.Json
