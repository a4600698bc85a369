/-
Numbers, dates and truth values of TOML.

A scalar is a word: a run of letters, digits and the signs that numbers and dates have.  The
functions of this file decide what a whole word is.  Underscores stand between two digits; a whole
number does not start with a needless zero; dates have days that their months have.
-/
import CodeOutline.Json.Reader
import CodeOutline.Toml.Basic

namespace CodeOutline.Toml

open Json.Reader (digit? hexDigit?)

/-- A digit below a base. -/
def digitIn? (base : Nat) (c : Char) : Option Nat := (hexDigit? c).filter (· < base)

/-- The digits of a base in a word that has single underscores between digits only. -/
def digits? (base : Nat) : List Char → Option (List Nat)
  | [] => none
  | [c] => do return [← digitIn? base c]
  | c :: '_' :: rest => do
    let d ← digitIn? base c
    return d :: (← digits? base rest)
  | c :: rest => do
    let d ← digitIn? base c
    return d :: (← digits? base rest)

/-- The number with the given digits in a base. -/
def ofDigits (base : Nat) (ds : List Nat) : Nat := ds.foldl (fun n d => n * base + d) 0

/-- The decimal digits of a word without a needless zero in front. -/
def wholeDigits? (cs : List Char) : Option (List Nat) := do
  match ← digits? 10 cs with
  | 0 :: _ :: _ => none
  | ds => return ds

/-- An integer with 64 bits. -/
def integer? (i : Int) : Option Toml :=
  if -(Nat.pow 2 63 : Int) ≤ i ∧ i < Nat.pow 2 63 then some (.integer i) else none

/-- Splits a sign off a word: whether it is a minus, and the rest. -/
def splitSign : List Char → Bool × List Char
  | '-' :: rest => (true, rest)
  | '+' :: rest => (false, rest)
  | rest => (false, rest)

/-! ### Integers -/

/-- The integer that a word stands for. -/
def integerOf? : List Char → Option Toml
  | '0' :: 'x' :: rest => do integer? (ofDigits 16 (← digits? 16 rest))
  | '0' :: 'o' :: rest => do integer? (ofDigits 8 (← digits? 8 rest))
  | '0' :: 'b' :: rest => do integer? (ofDigits 2 (← digits? 2 rest))
  | cs => do
    let (negative, rest) := splitSign cs
    let n := ofDigits 10 (← wholeDigits? rest)
    integer? (if negative then -n else n)

/-! ### Floats -/

/-- The power of ten after its mark. -/
def powerOf? (cs : List Char) : Option Int := do
  let (negative, rest) := splitSign cs
  let n := ofDigits 10 (← digits? 10 rest)
  return if negative then -n else n

/-- Splits a word at the first character with a property. -/
def splitAtFirst (p : Char → Bool) (cs : List Char) : List Char × Option (List Char) :=
  match cs.dropWhile (fun c => !p c) with
  | [] => (cs, none)
  | _ :: rest => (cs.takeWhile (fun c => !p c), some rest)

/-- Whether `n · 10 ^ power` is beyond the largest double.  Where the number of digits decides,
nothing is computed. -/
def overflows (n : Nat) (power : Int) : Bool :=
  let size := (Nat.toDigits 10 n).length + power
  if n = 0 ∨ size < 300 then false
  else if 320 < size then true
  else (Binary64.ofRatio false (n * Nat.pow 10 power.toNat) (Nat.pow 10 (-power).toNat)).isNone

/-- The float that a word stands for.  It has a fraction, a power of ten, or both, and is not beyond
the largest double. -/
def floatOf? (cs : List Char) : Option Toml := do
  let (negative, rest) := splitSign cs
  if rest = ['i', 'n', 'f'] ∨ rest = ['n', 'a', 'n'] then return .float
  let (mantissa, power) := splitAtFirst (fun c => c == 'e' || c == 'E') rest
  let (whole, fraction) := splitAtFirst (· == '.') mantissa
  if power.isNone && fraction.isNone then none
  let wholeDigits ← wholeDigits? whole
  let fractionDigits ← match fraction with
    | some f => digits? 10 f
    | none => some []
  let exponent ← match power with
    | some p => powerOf? p
    | none => some 0
  let n := ofDigits 10 (wholeDigits ++ fractionDigits)
  if !negative && overflows n (exponent - fractionDigits.length) then none
  return .float

/-! ### Dates -/

/-- The number of two digits, if it is in a range. -/
def twoDigits? (low high : Nat) (a b : Char) : Option Nat := do
  let n := (← digit? a) * 10 + (← digit? b)
  if low ≤ n ∧ n ≤ high then return n else none

/-- The number of days of a month. -/
def daysIn (year month : Nat) : Nat :=
  if month = 2 then if year % 4 = 0 ∧ (year % 100 ≠ 0 ∨ year % 400 = 0) then 29 else 28
  else if month = 4 ∨ month = 6 ∨ month = 9 ∨ month = 11 then 30
  else 31

/-- Reads a date from the front of a word. -/
def date? : List Char → Option (List Char)
  | y₁ :: y₂ :: y₃ :: y₄ :: '-' :: m₁ :: m₂ :: '-' :: d₁ :: d₂ :: rest => do
    let year := (← twoDigits? 0 99 y₁ y₂) * 100 + (← twoDigits? 0 99 y₃ y₄)
    let month ← twoDigits? 1 12 m₁ m₂
    let _ ← twoDigits? 1 (daysIn year month) d₁ d₂
    return rest
  | _ => none

/-- Reads a time of day from the front of a word, with a fraction of a second if there is one. -/
def time? : List Char → Option (List Char)
  | h₁ :: h₂ :: ':' :: m₁ :: m₂ :: ':' :: s₁ :: s₂ :: rest => do
    let _ ← twoDigits? 0 23 h₁ h₂
    let _ ← twoDigits? 0 59 m₁ m₂
    let _ ← twoDigits? 0 60 s₁ s₂
    match rest with
    | '.' :: d :: more =>
      if (digit? d).isSome then return more.dropWhile (digit? · |>.isSome) else none
    | _ => return rest
  | _ => none

/-- Whether a word is an offset from universal time, or empty. -/
def isOffset : List Char → Bool
  | [] => true
  | ['Z'] => true
  | ['z'] => true
  | [s, h₁, h₂, ':', m₁, m₂] =>
    (s == '+' || s == '-') && (twoDigits? 0 23 h₁ h₂).isSome && (twoDigits? 0 59 m₁ m₂).isSome
  | _ => false

/-- Whether a word is a time of day with an offset or without one. -/
def isOffsetTime (cs : List Char) : Bool :=
  match time? cs with
  | some rest => isOffset rest
  | none => false

/-- The date or time that a word stands for. -/
def datetimeOf? (cs : List Char) : Option Toml :=
  let accepted := match date? cs with
    | some [] => true
    | some ('T' :: rest) => isOffsetTime rest
    | some ('t' :: rest) => isOffsetTime rest
    | some (' ' :: rest) => isOffsetTime rest
    | some _ => false
    | none => time? cs == some []
  if accepted then some .datetime else none

/-! ### Words -/

/-- The characters of words. -/
def isWordChar (c : Char) : Bool :=
  c.isAlphanum || c == '+' || c == '-' || c == '_' || c == '.' || c == ':'

/-- Reads a word.  A date may be joined to a time of day by a blank. -/
def word (cs : List Char) : List Char × List Char :=
  let first := cs.takeWhile isWordChar
  let rest := cs.dropWhile isWordChar
  match date? first, rest with
  | some [], ' ' :: h₁ :: h₂ :: ':' :: _ =>
    if (twoDigits? 0 23 h₁ h₂).isSome then
      let more := rest.drop 1
      (first ++ ' ' :: more.takeWhile isWordChar, more.dropWhile isWordChar)
    else (first, rest)
  | _, _ => (first, rest)

/-- The scalar that a word stands for. -/
def scalar? (cs : List Char) : Option Toml :=
  if cs = ['t', 'r', 'u', 'e'] then some (.boolean true)
  else if cs = ['f', 'a', 'l', 's', 'e'] then some (.boolean false)
  else (datetimeOf? cs).or ((floatOf? cs).or (integerOf? cs))

end CodeOutline.Toml
