/-
Double precision numbers as exact values.

A finite double is a sign, a significand and a power of two.  Products, quotients and conversions
are computed on the exact rational value and rounded once, to the nearest double and to an even
significand when two are equally near.  A result that is too large for a double is `none`: there is
no infinity here.
-/

namespace CodeOutline

/-- The finite double `±significand · 2 ^ exponent`.  The functions of this file build it in its
standard form: the significand has at most 53 bits, and exactly 53 unless the exponent is the least
one. -/
structure Binary64 where
  /-- Whether the sign is a minus.  Zero has two signs. -/
  negative : Bool
  significand : Nat
  exponent : Int
deriving DecidableEq, Repr

namespace Binary64

/-- The least power of two of a double. -/
def minExponent : Int := -1074

/-- The largest power of two of a double. -/
def maxExponent : Int := 971

/-- Zero, with the given sign. -/
def zero (negative : Bool) : Binary64 := ⟨negative, 0, minExponent⟩

def isZero (x : Binary64) : Bool := x.significand == 0

/-- The quotient of two natural numbers at the scale `2 ^ e`, rounded to the nearest integer, halves
to even. -/
def roundAt (e : Int) (num den : Nat) : Nat :=
  let scaledNum := num * Nat.pow 2 (-e).toNat
  let scaledDen := den * Nat.pow 2 e.toNat
  let q := scaledNum / scaledDen
  let r := scaledNum % scaledDen
  if scaledDen < 2 * r || (2 * r == scaledDen && q % 2 == 1) then q + 1 else q

/-- The power of two at which `num / den` has 53 bits before the binary point, or the least one that
there is. -/
def scaleOf (num den : Nat) : Int :=
  let e := (num.log2 : Int) - den.log2 - 52
  let below := num * Nat.pow 2 (-e).toNat < den * Nat.pow 2 e.toNat * Nat.pow 2 52
  max minExponent (if below then e - 1 else e)

/-- The double nearest to `±num / den`, if it is finite. -/
def ofRatio (negative : Bool) (num den : Nat) : Option Binary64 :=
  if num = 0 then some (zero negative)
  else
    let e := scaleOf num den
    let m := roundAt e num den
    let (m, e) := if m = Nat.pow 2 53 then (Nat.pow 2 52, e + 1) else (m, e)
    if maxExponent < e then none else some ⟨negative, m, e⟩

/-- The double nearest to a natural number. -/
def ofNat (n : Nat) : Option Binary64 := ofRatio false n 1

/-- The numerator of the magnitude. -/
def num (x : Binary64) : Nat := x.significand * Nat.pow 2 x.exponent.toNat

/-- The denominator of the magnitude. -/
def den (x : Binary64) : Nat := Nat.pow 2 (-x.exponent).toNat

/-- The same magnitude with the other sign. -/
def neg (x : Binary64) : Binary64 := { x with negative := !x.negative }

def mul (x y : Binary64) : Option Binary64 :=
  ofRatio (x.negative != y.negative) (x.num * y.num) (x.den * y.den)

/-- The quotient, for a divisor that is not zero. -/
def div (x y : Binary64) : Option Binary64 :=
  ofRatio (x.negative != y.negative) (x.num * y.den) (x.den * y.num)

end Binary64

end CodeOutline
