/-
Patterns for texts and file names.

A star stands for any text, a question mark for any character, and brackets for a set of characters.
Quoted characters stand for themselves.
-/
import CodeOutline.Shell.Word

namespace CodeOutline.Shell.Glob

/-- An element of a pattern. -/
inductive Atom where
  | char (c : Char)
  | any
  | star
  /-- One character in some ranges, or in none of them. -/
  | set (negated : Bool) (ranges : List (Char × Char))

/-- A character with whether it is quoted. -/
abbrev Mark := Char × Bool

/-- The ranges of a class of characters. -/
def classRanges : String → List (Char × Char)
  | "alpha" => [('a', 'z'), ('A', 'Z')]
  | "digit" => [('0', '9')]
  | "alnum" => [('a', 'z'), ('A', 'Z'), ('0', '9')]
  | "upper" => [('A', 'Z')]
  | "lower" => [('a', 'z')]
  | "space" => [('\t', '\r'), (' ', ' ')]
  | "blank" => [('\t', '\t'), (' ', ' ')]
  | "punct" => [('!', '/'), (':', '@'), ('[', Char.ofNat 96), (Char.ofNat 123, '~')]
  | "xdigit" => [('0', '9'), ('a', 'f'), ('A', 'F')]
  | "cntrl" => [(Char.ofNat 0, Char.ofNat 31), (Char.ofNat 127, Char.ofNat 127)]
  | "print" => [(' ', '~')]
  | "graph" => [('!', '~')]
  | _ => []

/-- The ranges in brackets, and the rest after the closing one.  The number bounds the steps. -/
def ranges : Nat → List (Char × Char) → List Mark → Option (List (Char × Char) × List Mark)
  | 0, _, _ => none
  | _ + 1, _, [] => none
  | n + 1, acc, (c, quoted) :: rest =>
    if c = ']' ∧ !quoted ∧ !acc.isEmpty then some (acc, rest)
    else
      match c, rest with
      | '[', (':', _) :: inner =>
        let (name, after) := inner.span (·.1 ≠ ':')
        match after with
        | _ :: (']', _) :: after =>
          ranges n (classRanges (String.ofList (name.map (·.1))) ++ acc) after
        | _ => ranges n ((c, c) :: acc) rest
      | _, ('-', false) :: (d, q) :: after =>
        if d = ']' ∧ !q then ranges n ((c, c) :: acc) rest else ranges n ((c, d) :: acc) after
      | _, _ => ranges n ((c, c) :: acc) rest

/-- The elements of a pattern.  The number bounds the steps. -/
def atoms : Nat → List Mark → List Atom
  | 0, _ => []
  | _ + 1, [] => []
  | n + 1, (c, quoted) :: rest =>
    if quoted then .char c :: atoms n rest
    else if c = '*' then .star :: atoms n rest
    else if c = '?' then .any :: atoms n rest
    else if c = '[' then
      let (negated, inner) := match rest with
        | ('!', false) :: inner => (true, inner)
        | ('^', false) :: inner => (true, inner)
        | inner => (false, inner)
      match ranges (inner.length + 1) [] inner with
      | some (rs, rest) => .set negated rs :: atoms n rest
      | none => .char c :: atoms n rest
    else .char c :: atoms n rest

/-- Whether an element other than a star stands for a character. -/
def Atom.accepts (a : Atom) (c : Char) : Bool :=
  match a with
  | .char d => c == d
  | .any => true
  | .star => true
  | .set negated rs => (rs.any fun (low, high) => low ≤ c && c ≤ high) != negated

/-- Whether elements stand for a text. -/
def matchAtoms : List Atom → List Char → Bool
  | [], cs => cs.isEmpty
  | .star :: as, [] => matchAtoms as []
  | .star :: as, c :: cs => matchAtoms as (c :: cs) || matchAtoms (.star :: as) cs
  | _ :: _, [] => false
  | a :: as, c :: cs => a.accepts c && matchAtoms as cs
termination_by as cs => as.length + cs.length

/-- Whether a pattern stands for a text. -/
def isMatch (pattern : List Mark) (cs : List Char) : Bool :=
  matchAtoms (atoms (pattern.length + 1) pattern) cs

/-- Whether a text has an unquoted character of a pattern. -/
def isPattern (pattern : List Mark) : Bool :=
  pattern.any fun (c, quoted) => !quoted && (c == '*' || c == '?' || c == '[')

end CodeOutline.Shell.Glob
