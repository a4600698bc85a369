/-
The text of log entries.

A log is read on terminals, so the characters that control a terminal are written out: five of the
controls below the space, the delete character, and all controls from U+0080 to U+009F.
-/

namespace CodeOutline.CommandLine

/-- The controls below U+0080 that are written out. -/
def controls : List Nat := [0x07, 0x08, 0x0c, 0x1b, 0x7f]

/-- Two hexadecimal digits. -/
def twoDigits (n : Nat) : List Char := [Nat.digitChar (n / 16), Nat.digitChar (n % 16)]

/-- A character as a log shows it. -/
def logChar (c : Char) : List Char :=
  let n := c.toNat
  if n ∈ controls then '\\' :: 'x' :: twoDigits n
  else if 0x80 ≤ n ∧ n ≤ 0x9f then '\\' :: 'u' :: '\x7b' :: twoDigits n ++ ['\x7d']
  else [c]

/-- A text as a log shows it. -/
def logText (s : String) : String := String.ofList (s.toList.flatMap logChar)

/-- The first line of a text, without the characters that end it. -/
def firstLine (s : String) : String :=
  match s.toList.span (· ≠ '\n') with
  | (line, []) => String.ofList line
  | (line, _ :: _) => String.ofList (if line.getLast? = some '\r' then line.dropLast else line)

end CodeOutline.CommandLine
