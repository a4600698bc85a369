/-
Regular expressions, as tools for lines of text use them.

An expression is a list of alternatives, and an alternative is a list of elements.  The first match
from the left counts, and repetitions are as long as they can be.
-/
import CodeOutline.Shell.Glob

namespace CodeOutline.Shell

/-- An element of a regular expression. -/
inductive Regex where
  | char (c : Char)
  | any
  | set (negated : Bool) (ranges : List (Char × Char))
  | lineStart
  | lineEnd
  /-- Alternatives whose match is remembered under a number. -/
  | group (number : Nat) (alternatives : List (List Regex))
  /-- The end of such a group, which started at a place. -/
  | groupEnd (number start : Nat)
  | repeated (element : Regex) (least : Nat) (most : Option Nat)
  /-- What a group matched. -/
  | back (number : Nat)

namespace Regex

/-! ### Reading -/

/-- A unit of the text of an expression. -/
inductive Sign where
  | element (r : Regex)
  | opening
  | closing
  | bar
  | times (least : Nat) (most : Option Nat)

/-- The bounds of a repetition between braces. -/
def bounds? (cs : List Char) : Option (Nat × Option Nat) :=
  match (String.ofList cs).splitOn "," with
  | [n] => n.toNat?.map fun n => (n, some n)
  | [n, ""] => n.toNat?.map fun n => (n, none)
  | [n, m] => do return ((n.toNat?).getD 0, some (← m.toNat?))
  | _ => none

/-- The units of a text.  In an extended expression brackets and signs need no backslash.  The
number bounds the steps. -/
def signs (extended : Bool) : Nat → Bool → List Char → Option (List Sign)
  | 0, _, _ => none
  | _ + 1, _, [] => some []
  | n + 1, first, c :: rest =>
    let next (s : Sign) (first : Bool) (rest : List Char) : Option (List Sign) := do
      return s :: (← signs extended n first rest)
    let plain (c : Char) (rest : List Char) := next (.element (.char c)) false rest
    let braces (closing : List Char) (rest : List Char) : Option (List Sign) :=
      let (text, _) := rest.span fun c => c != '\\' && !isCloseBrace c
      let after := rest.drop text.length
      if closing.isPrefixOf after then do
        let (least, most) ← bounds? text
        next (.times least most) false (after.drop closing.length)
      else none
    let special (c : Char) (rest : List Char) : Option (List Sign) :=
      if c = '(' then next .opening true rest
      else if c = ')' then next .closing false rest
      else if c = '|' then next .bar true rest
      else if c = '+' then next (.times 1 none) false rest
      else if c = '?' then next (.times 0 (some 1)) false rest
      else if isOpenBrace c then
        braces (if extended then [Char.ofNat 125] else ['\\', Char.ofNat 125]) rest
      else plain c rest
    if c = '\\' then
      match rest with
      | [] => none
      | d :: rest =>
        if d.isDigit ∧ d ≠ '0' then next (.element (.back (d.toNat - '0'.toNat))) false rest
        else if d = 'n' then plain '\n' rest
        else if d = 't' then plain '\t' rest
        else if !extended ∧ (d ∈ ['(', ')', '|', '+', '?'] ∨ isOpenBrace d) then special d rest
        else plain d rest
    else if c = '.' then next (.element .any) false rest
    else if c = '*' then if first then plain c rest else next (.times 0 none) false rest
    else if c = '^' then
      if first ∨ extended then next (.element .lineStart) true rest else plain c rest
    else if c = '$' then
      let last := match rest with
        | [] => true
        | '\\' :: ')' :: _ => true
        | '\\' :: '|' :: _ => true
        | _ => extended
      if last then next (.element .lineEnd) false rest else plain c rest
    else if c = '[' then
      let (negated, inner) := match rest with
        | '^' :: inner => (true, inner)
        | inner => (false, inner)
      match Glob.ranges (inner.length + 1) [] (inner.map fun c => (c, false)) with
      | some (rs, after) => next (.element (.set negated rs)) false (after.map (·.1))
      | none => none
    else if extended ∧ (c ∈ ['(', ')', '|', '+', '?'] ∨ isOpenBrace c) then special c rest
    else plain c rest

/-- Puts units together: the alternatives up to the end of a group, the number of the next group,
and the rest.  The number bounds the steps. -/
def alternatives : Nat → Nat → List (List Regex) → List Regex → List Sign →
    Option (List (List Regex) × Nat × List Sign)
  | 0, _, _, _, _ => none
  | n + 1, number, alts, current, signs =>
    match signs with
    | [] => some ((current.reverse :: alts).reverse, number, [])
    | .closing :: _ => some ((current.reverse :: alts).reverse, number, signs)
    | .bar :: rest => alternatives n number (current.reverse :: alts) [] rest
    | .element r :: rest => alternatives n number alts (r :: current) rest
    | .times least most :: rest =>
      match current with
      | r :: before => alternatives n number alts (.repeated r least most :: before) rest
      | [] => none
    | .opening :: rest => do
      let (inner, after, rest) ← alternatives n (number + 1) [] [] rest
      match rest with
      | .closing :: rest => alternatives n after alts (.group number inner :: current) rest
      | _ => none

/-- The expression that a text stands for. -/
def ofText? (extended : Bool) (text : String) : Option (List (List Regex)) := do
  let ss ← signs extended (2 * text.length + 2) true text.toList
  match ← alternatives (2 * ss.length + 2) 1 [] [] ss with
  | (alts, _, []) => some alts
  | _ => none

/-! ### Matching -/

/-- What groups have matched: their numbers, starts and ends. -/
abbrev Captures := List (Nat × Nat × Nat)

/-- The text between two places. -/
def slice (text : List Char) (start stop : Nat) : List Char := (text.drop start).take (stop - start)

/-- Matches elements at a place of a text, and gives the end and what groups have matched.  The
number bounds the steps. -/
def matchAt (text : List Char) :
    Nat → List Regex → Nat → List Char → Captures → Option (Nat × Captures)
  | 0, _, _, _, _ => none
  | _ + 1, [], place, _, caps => some (place, caps)
  | n + 1, r :: rs, place, rest, caps =>
    let one (ok : Char → Bool) : Option (Nat × Captures) :=
      match rest with
      | c :: rest => if ok c then matchAt text n rs (place + 1) rest caps else none
      | [] => none
    match r with
    | .char d => one (· == d)
    | .any => one fun _ => true
    | .set negated ranges =>
      one fun c => (ranges.any fun (low, high) => low ≤ c && c ≤ high) != negated
    | .lineStart => if place = 0 then matchAt text n rs place rest caps else none
    | .lineEnd => if rest.isEmpty then matchAt text n rs place rest caps else none
    | .group number alts =>
      alts.findSome? fun alt => matchAt text n (alt ++ .groupEnd number place :: rs) place rest caps
    | .groupEnd number start => matchAt text n rs place rest ((number, start, place) :: caps)
    | .back number =>
      match caps.lookup number with
      | some (start, stop) =>
        let part := slice text start stop
        if part.isPrefixOf rest then
          matchAt text n rs (place + part.length) (rest.drop part.length) caps
        else none
      | none => none
    | .repeated element least most =>
      let more :=
        if most = some 0 then none
        else matchAt text n (element :: .repeated element (least - 1) (most.map (· - 1)) :: rs)
          place rest caps
      match more with
      | some found => some found
      | none => if least = 0 then matchAt text n rs place rest caps else none

/-- The number of steps that a match in a text may take. -/
def patience (text : List Char) : Nat := 16 * text.length + 4096

/-- The first match from a place on: its start, its end, and what groups have matched. -/
def searchFrom (alts : List (List Regex)) (text : List Char) :
    Nat → List Char → Option (Nat × Nat × Captures)
  | place, rest =>
    match alts.findSome? fun alt => matchAt text (patience text) alt place rest [] with
    | some (stop, caps) => some (place, stop, caps)
    | none =>
      match rest with
      | _ :: rest => searchFrom alts text (place + 1) rest
      | [] => none

/-- The first match in a text. -/
def search (alts : List (List Regex)) (text : List Char) : Option (Nat × Nat × Captures) :=
  searchFrom alts text 0 text

end Regex

end CodeOutline.Shell
