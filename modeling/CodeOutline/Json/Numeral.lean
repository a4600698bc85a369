/-
Numbers as they are written in a JSON text, and their values.

An integer is kept exactly when it fits in 64 bits, with or without a sign.  Everything else that is
written as a number is a double, computed from as many leading digits as fit in 64 bits and from one
power of ten.  The computation rounds twice, so its result need not be the double nearest to the
written number.
-/
import CodeOutline.Binary64

namespace CodeOutline

/-- The value of a JSON number. -/
inductive Number where
  | int (value : Int)
  | float (value : Binary64)
deriving DecidableEq, Repr

namespace Json

/-- A number as it is written: its digits, before they are given a value. -/
structure Numeral where
  negative : Bool
  /-- The digits before the decimal point. -/
  whole : List Nat
  /-- The digits after the decimal point, if there is one. -/
  fraction : Option (List Nat)
  /-- The power of ten, if one is written: whether it is negative, and its digits. -/
  power : Option (Bool × List Nat)
deriving DecidableEq, Repr

namespace Numeral

/-- Appends digits to a significand while it stays below `2 ^ 64`.  Returns the digits that are left
over. -/
def absorb : Nat → List Nat → Nat × List Nat
  | s, [] => (s, [])
  | s, d :: ds => if s * 10 + d < UInt64.size then absorb (s * 10 + d) ds else (s, d :: ds)

/-- The natural number with the given decimal digits. -/
def ofDigits (ds : List Nat) : Nat := ds.foldl (fun n d => n * 10 + d) 0

/-- The largest power of ten that is multiplied in one step. -/
def maxStep : Nat := 308

/-- The double nearest to a power of ten. -/
def powerOfTen (k : Nat) : Option Binary64 := Binary64.ofNat (Nat.pow 10 k)

/-- The product with `10 ^ k`, if it is finite. -/
def scaleUp (x : Binary64) (k : Nat) : Option Binary64 :=
  if k ≤ maxStep then do x.mul (← powerOfTen k) else if x.isZero then some x else none

/-- The quotient by the largest power of ten that is divided in one step, taken a number of
times. -/
def shrink (x : Binary64) : Nat → Option Binary64
  | 0 => some x
  | n + 1 => if x.isZero then some x else do shrink (← x.div (← powerOfTen maxStep)) n

/-- The quotient by `10 ^ k`: as many large steps as leave a power that is divided in one step. -/
def scaleDown (x : Binary64) (k : Nat) : Option Binary64 := do
  let steps := (k - 1) / maxStep
  (← shrink x steps).div (← powerOfTen (k - steps * maxStep))

/-- The double for `s · 10 ^ e`, if it is finite. -/
def scale (s : Nat) (e : Int) : Option Binary64 :=
  match Binary64.ofNat s with
  | some x => if 0 ≤ e then scaleUp x e.toNat else scaleDown x (-e).toNat
  | none => none

/-- A written power of ten from this one on decides alone: it gives zero, or a number out of
range. -/
def powerLimit : Nat := Nat.pow 2 31

/-- The magnitude of a numeral that is not an integer, from its significand `s` and its exponent `e`
so far. -/
def magnitude (s : Nat) (e : Int) : Option (Bool × List Nat) → Option Binary64
  | none => scale s e
  | some (negative, ds) =>
    let p := ofDigits ds
    if p < powerLimit then scale s (if negative then e - p else e + p)
    else if s ≠ 0 ∧ negative = false then none
    else some (Binary64.zero false)

/-- Gives a magnitude its sign. -/
def signed (negative : Bool) (x : Binary64) : Number :=
  .float (if negative then x.neg else x)

/-- The value of a numeral.  It is `none` when the magnitude is out of range. -/
def value (n : Numeral) : Option Number :=
  let (s, left) := absorb 0 n.whole
  match n.fraction, n.power, left with
  | none, none, [] =>
    if n.negative then
      if 0 < s ∧ s ≤ Nat.pow 2 63 then some (.int (-s)) else (scale s 0).map (signed true)
    else some (.int s)
  | fraction, power, left =>
    let digits := fraction.getD []
    let (s, dropped) := absorb s digits
    let e : Int := left.length - (digits.length - dropped.length : Nat)
    (magnitude s e power).map (signed n.negative)

end Numeral

end Json

end CodeOutline
