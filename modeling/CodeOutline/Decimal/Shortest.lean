/-
Doubles as decimal text.

A double is written with the fewest digits that read back as the same double; of two such decimals
the nearer one is taken.  A decimal reads back as a double exactly when it lies between the two
points half way to the neighbouring doubles; the points themselves belong to the double with the
even significand.

The search goes through the powers of ten from above.  The first power that has a multiple between
those two points gives the digits: a multiple of a larger power has fewer digits.
-/
import CodeOutline.Binary64

namespace CodeOutline

/-- The positive decimal `digits · 10 ^ power`. -/
structure Decimal where
  digits : Nat
  power : Int
deriving DecidableEq, Repr

namespace Decimal

/-- The numerator of the value. -/
def num (d : Decimal) : Nat := d.digits * Nat.pow 10 d.power.toNat

/-- The denominator of the value. -/
def den (d : Decimal) : Nat := Nat.pow 10 (-d.power).toNat

end Decimal

namespace Binary64

/-- The point `quarters · 2 ^ (exponent - 2)` as a fraction.  In quarters of its last bit, a double
and the points half way to its neighbours are all whole numbers. -/
def quarterPoint (x : Binary64) (quarters : Nat) : Nat × Nat :=
  (quarters * Nat.pow 2 (x.exponent - 2).toNat, Nat.pow 2 (2 - x.exponent).toNat)

/-- The point half way to the next smaller magnitude.  It is nearer when the significand is the
least one of its exponent. -/
def lowerEnd (x : Binary64) : Nat × Nat :=
  x.quarterPoint
    (if x.significand = Nat.pow 2 52 ∧ minExponent < x.exponent then 4 * x.significand - 1
    else 4 * x.significand - 2)

/-- The point half way to the next larger magnitude. -/
def upperEnd (x : Binary64) : Nat × Nat := x.quarterPoint (4 * x.significand + 2)

/-- Whether a decimal reads back as the magnitude of `x`. -/
def readsBack (x : Binary64) (d : Decimal) : Bool :=
  let (ln, ld) := x.lowerEnd
  let (un, ud) := x.upperEnd
  if x.significand % 2 = 0 then ln * d.den ≤ d.num * ld && d.num * ud ≤ un * d.den
  else ln * d.den < d.num * ld && d.num * ud < un * d.den

/-- The largest multiple of `10 ^ power` that is at most the magnitude of `x`. -/
def floorAt (x : Binary64) (power : Int) : Decimal :=
  let unit : Decimal := ⟨1, power⟩
  ⟨x.num * unit.den / (x.den * unit.num), power⟩

/-- Whether the magnitude of `x` is nearer to the upper one of two neighbouring decimals. -/
def nearerAbove (x : Binary64) (below above : Decimal) : Bool :=
  let twice := 2 * x.num * below.den
  let sum := (below.num + above.num) * x.den
  sum < twice || (sum == twice && below.digits % 2 == 1)

/-- The decimal at one power of ten, if a multiple of it reads back. -/
def shortestAt (x : Binary64) (power : Int) : Option Decimal :=
  let below := x.floorAt power
  let above : Decimal := ⟨below.digits + 1, power⟩
  match below.digits != 0 && x.readsBack below, x.readsBack above with
  | true, true => some (if x.nearerAbove below above then above else below)
  | true, false => some below
  | false, true => some above
  | false, false => none

/-- Searches a number of powers of ten downward from a given one. -/
def searchDown (x : Binary64) (power : Int) : Nat → Option Decimal
  | 0 => none
  | n + 1 => (x.shortestAt power).or (searchDown x (power - 1) n)

/-- The shortest decimal that reads back as the magnitude of `x`.  Zero has none. -/
def shortest (x : Binary64) : Option Decimal := if x.isZero then none else x.searchDown 309 640

/-- Positional notation is used for magnitudes from `10 ^ positionalMin` to below `10 ^
(positionalMax + 1)`. -/
def positionalMin : Int := -5

/-- See `positionalMin`. -/
def positionalMax : Int := 15

/-- Digits with a decimal point.  A whole number ends in `.0`. -/
def positional (digits : List Char) (power : Int) : List Char :=
  let length : Int := digits.length
  if 0 ≤ power then digits ++ List.replicate power.toNat '0' ++ ['.', '0']
  else if 0 < length + power then
    digits.take (length + power).toNat ++ '.' :: digits.drop (length + power).toNat
  else '0' :: '.' :: List.replicate (-(length + power)).toNat '0' ++ digits

/-- Digits with a power of ten, whose sign is always written. -/
def scientific (digits : List Char) (exponent : Int) : List Char :=
  let lead := match digits with
    | d :: e :: rest => d :: '.' :: e :: rest
    | ds => ds
  lead ++ 'e' :: (if exponent < 0 then '-' else '+') :: Nat.toDigits 10 exponent.natAbs

/-- The text of the magnitude of a double. -/
def magnitudeText (x : Binary64) : List Char :=
  match x.shortest with
  | none => ['0', '.', '0']
  | some d =>
    let digits := Nat.toDigits 10 d.digits
    let exponent := digits.length - 1 + d.power
    if positionalMin ≤ exponent ∧ exponent ≤ positionalMax then positional digits d.power
    else scientific digits exponent

/-- The text of a double. -/
def text (x : Binary64) : String :=
  String.ofList (if x.negative then '-' :: magnitudeText x else magnitudeText x)

end Binary64

end CodeOutline
