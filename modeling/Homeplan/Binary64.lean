namespace Homeplan

/-! Finite binary floating-point numbers of 64 bits, on exact integer arithmetic.

A number is a sign, a mantissa below `2 ^ 53` and a scale: its magnitude is
`mantissa * 2 ^ scale` units of `2 ^ -1074`.  Every operation computes the exact
quotient first and rounds it once, to the nearest number and to an even mantissa
at the midpoint.
-/

/-- A finite number `± mantissa * 2 ^ scale / 2 ^ 1074`. -/
structure Binary64 where
  negative : Bool
  mantissa : Nat
  scale : Nat
deriving DecidableEq, Repr

namespace Binary64

/-- The number of smallest units in one. -/
def unitsPerOne : Nat := Nat.pow 2 1074

/-- The nearest integer to a quotient; the midpoint goes to the even neighbour. -/
def nearest (numerator denominator : Nat) : Nat :=
  let quotient := numerator / denominator
  let remainder := numerator % denominator
  if 2 * remainder < denominator then quotient
  else if denominator < 2 * remainder then quotient + 1
  else if quotient % 2 = 0 then quotient
  else quotient + 1

def zero (negative : Bool) : Binary64 := ⟨negative, 0, 0⟩

def isZero (number : Binary64) : Bool := number.mantissa = 0

/-- The number nearest to a quotient, or nothing when it is beyond the largest one. -/
def ofRatio (negative : Bool) (numerator denominator : Nat) : Option Binary64 :=
  let units := numerator * unitsPerOne
  let whole := units / denominator
  let scale := if whole < Nat.pow 2 53 then 0 else whole.log2 - 52
  let mantissa := nearest units (denominator * Nat.pow 2 scale)
  let rounded : Binary64 :=
    if mantissa = Nat.pow 2 53 then ⟨negative, Nat.pow 2 52, scale + 1⟩
    else ⟨negative, mantissa, scale⟩
  if 2045 < rounded.scale then none else some rounded

def negate (number : Binary64) : Binary64 :=
  { number with negative := !number.negative }

/-- The magnitude in units of `2 ^ -1074`. -/
def units (number : Binary64) : Nat := number.mantissa * Nat.pow 2 number.scale

/-- The product, rounded; nothing when it is too large. -/
def times (left right : Binary64) : Option Binary64 :=
  ofRatio (left.negative != right.negative) (left.units * right.units)
    (unitsPerOne * unitsPerOne)

/-- The quotient, rounded; nothing when it is too large. -/
def dividedBy (left right : Binary64) : Option Binary64 :=
  ofRatio (left.negative != right.negative) left.units right.units

def powerOfTen (exponent : Nat) : Option Binary64 :=
  ofRatio false (Nat.pow 10 exponent) 1

/-- Multiplies by a power of ten.  A power beyond the largest number leaves only zero
representable. -/
def scaledUp (number : Binary64) (exponent : Nat) : Option Binary64 :=
  if exponent ≤ 308 then (powerOfTen exponent).bind number.times
  else if number.isZero then some number
  else none

/-- Divides by a power of ten, in steps of at most 308 that each round. -/
def scaledDown (number : Binary64) (exponent : Nat) : Option Binary64 :=
  if small : exponent ≤ 308 then (powerOfTen exponent).bind number.dividedBy
  else if number.isZero then some number
  else do
    let divisor ← powerOfTen 308
    let quotient ← number.dividedBy divisor
    quotient.scaledDown (exponent - 308)
termination_by exponent

/-- Reads `significand * 10 ^ exponent` in steps: the significand is rounded first, and each
scaling rounds again.  Nothing when the result is too large. -/
def ofSignificand (negative : Bool) (significand : Nat) (exponent : Int) : Option Binary64 := do
  let start ← ofRatio negative significand 1
  match exponent with
  | .ofNat power => start.scaledUp power
  | .negSucc power => start.scaledDown (power + 1)

/-- Reads `significand * 10 ^ exponent` with a single rounding; nothing when it is too large.  The
number lies below `10 ^ magnitude` and not below `10 ^ (magnitude - 1)`, so far outside the range of
the format no power has to be computed. -/
def ofDecimal (negative : Bool) (significand : Nat) (exponent : Int) : Option Binary64 :=
  let magnitude : Int := exponent + (Nat.toDigits 10 significand).length
  if significand = 0 then some (zero negative)
  else if 310 < magnitude then none
  else if magnitude < -325 then some (zero negative)
  else
    match exponent with
    | .ofNat power => ofRatio negative (significand * Nat.pow 10 power) 1
    | .negSucc power => ofRatio negative significand (Nat.pow 10 (power + 1))

end Binary64

end Homeplan
