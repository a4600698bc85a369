/-
Quoted text for messages.

A text is put between double quotes.  Inside, a quote and a backslash are escaped, the usual control
characters have letters of their own, and any other character that is not shown is written by its
code point.
-/
import CodeOutline.Text.Unprinted

namespace CodeOutline.Text

/-- One character inside quoted text. -/
def quoteChar (c : Char) : List Char :=
  match c with
  | '"' => ['\\', '"']
  | '\\' => ['\\', '\\']
  | '\n' => ['\\', 'n']
  | '\r' => ['\\', 'r']
  | '\t' => ['\\', 't']
  | '\x00' => ['\\', '0']
  | c => if isUnprinted c then '\\' :: 'u' :: '\x7b' :: Nat.toDigits 16 c.toNat ++ ['\x7d'] else [c]

/-- A text between quotes. -/
def quoted (s : String) : String := String.ofList ('"' :: s.toList.flatMap quoteChar ++ ['"'])

end CodeOutline.Text
