/-
Strings, comments and line ends of TOML.

There are four kinds of strings: in double quotes, where a backslash starts an escape, and in single
quotes, where it does not, each on one line or, with three quotes, on several.  All functions read
from the front of a text and return the rest; `none` means that the text is malformed.
-/
import CodeOutline.Json.Reader

namespace CodeOutline.Toml

open Json.Reader (hexDigit?)

/-- The blanks inside a line. -/
def isBlank (c : Char) : Bool := c == ' ' || c == '\t'

def skipBlanks (cs : List Char) : List Char := cs.dropWhile isBlank

/-- The characters that may stand in comments and, quotes and backslashes apart, in strings. -/
def isText (c : Char) : Bool := c == '\t' || (' ' ≤ c && c ≤ '~') || 0x80 ≤ c.toNat

/-- Reads the end of a line, or of the text. -/
def lineEnd? : List Char → Option (List Char)
  | [] => some []
  | '\n' :: rest => some rest
  | '\r' :: '\n' :: rest => some rest
  | _ => none

/-- Reads what may follow a statement: blanks, a comment, and the end of the line. -/
def statementEnd? (cs : List Char) : Option (List Char) :=
  match skipBlanks cs with
  | '#' :: rest => lineEnd? (rest.dropWhile isText)
  | rest => lineEnd? rest

/-- Skips blanks, line ends and comments.  The flag says whether a comment has begun. -/
def skipGaps : Bool → List Char → Option (List Char)
  | _, [] => some []
  | _, '\n' :: rest => skipGaps false rest
  | _, '\r' :: '\n' :: rest => skipGaps false rest
  | true, c :: rest => if isText c then skipGaps true rest else none
  | false, '#' :: rest => skipGaps true rest
  | false, c :: rest => if isBlank c then skipGaps false rest else some (c :: rest)

/-! ### Escapes -/

/-- The number with the given hexadecimal digits. -/
def hexValue? (cs : List Char) : Option Nat :=
  cs.foldlM (fun n c => do return n * 16 + (← hexDigit? c)) 0

/-- The character with the given code point. -/
def charOf? (n : Nat) : Option Char := if n.isValidChar then some (Char.ofNat n) else none

/-- The character that a one-letter escape stands for. -/
def letterEscape? : Char → Option Char
  | 'b' => some '\x08'
  | 't' => some '\t'
  | 'n' => some '\n'
  | 'f' => some '\x0c'
  | 'r' => some '\r'
  | '"' => some '"'
  | '\\' => some '\\'
  | _ => none

/-- Reads an escape after its backslash. -/
def escape? : List Char → Option (Char × List Char)
  | 'u' :: rest => do
    if rest.length < 4 then none
    return (← charOf? (← hexValue? (rest.take 4)), rest.drop 4)
  | 'U' :: rest => do
    if rest.length < 8 then none
    return (← charOf? (← hexValue? (rest.take 8)), rest.drop 8)
  | c :: rest => do return (← letterEscape? c, rest)
  | [] => none

/-! ### Strings on one line

The number is a bound on the characters that are read. -/

/-- Reads a string in double quotes after the first one.  Characters are collected backwards. -/
def basicString : Nat → List Char → List Char → Option (String × List Char)
  | 0, _, _ => none
  | _ + 1, _, [] => none
  | _ + 1, acc, '"' :: rest => some (String.ofList acc.reverse, rest)
  | n + 1, acc, '\\' :: rest => do
    let (c, rest) ← escape? rest
    basicString n (c :: acc) rest
  | n + 1, acc, c :: rest => if isText c then basicString n (c :: acc) rest else none

/-- Reads a string in single quotes after the first one. -/
def literalString (cs : List Char) : Option (String × List Char) :=
  let body := cs.takeWhile fun c => isText c && c != '\''
  match cs.dropWhile fun c => isText c && c != '\'' with
  | '\'' :: rest => some (String.ofList body, rest)
  | _ => none

/-! ### Strings on several lines -/

/-- Drops the line end that may follow the opening quotes. -/
def dropFirstLineEnd : List Char → List Char
  | '\n' :: rest => rest
  | '\r' :: '\n' :: rest => rest
  | rest => rest

/-- Skips the blanks and line ends after a backslash at the end of a line. -/
def skipJoin : List Char → List Char
  | ' ' :: rest => skipJoin rest
  | '\t' :: rest => skipJoin rest
  | '\n' :: rest => skipJoin rest
  | '\r' :: '\n' :: rest => skipJoin rest
  | rest => rest

/-- The length of the run of a quote at the front, up to five. -/
def quoteRun (q : Char) (cs : List Char) : Nat := ((cs.take 5).takeWhile (· == q)).length

/-- Reads a string in three quotes after the first ones.  One or two quotes may stand inside, and
before the closing ones. -/
def multilineString (q : Char) : Nat → List Char → List Char → Option (String × List Char)
  | 0, _, _ => none
  | _ + 1, _, [] => none
  | n + 1, acc, c :: rest =>
    if c = q then
      let run := quoteRun q (c :: rest)
      let rest := rest.drop (run - 1)
      if 3 ≤ run then some (String.ofList (List.replicate (run - 3) q ++ acc).reverse, rest)
      else multilineString q n (List.replicate run q ++ acc) rest
    else if c = '\n' then multilineString q n ('\n' :: acc) rest
    else if c = '\r' then
      match rest with
      | '\n' :: rest => multilineString q n ('\n' :: acc) rest
      | _ => none
    else if c = '\\' ∧ q = '"' then
      match lineEnd? (skipBlanks rest), skipBlanks rest with
      | some _, _ :: _ => multilineString q n acc (skipJoin rest)
      | _, _ =>
        match escape? rest with
        | some (d, rest) => multilineString q n (d :: acc) rest
        | none => none
    else if isText c then multilineString q n (c :: acc) rest
    else none

/-- Reads a string of any kind. -/
def anyString? (cs : List Char) : Option (String × List Char) :=
  match cs with
  | '"' :: '"' :: '"' :: rest => multilineString '"' (rest.length + 1) [] (dropFirstLineEnd rest)
  | '\'' :: '\'' :: '\'' :: rest =>
    multilineString '\'' (rest.length + 1) [] (dropFirstLineEnd rest)
  | '"' :: rest => basicString (rest.length + 1) [] rest
  | '\'' :: rest => literalString rest
  | _ => none

end CodeOutline.Toml
