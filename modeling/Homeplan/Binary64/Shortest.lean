import Homeplan.Binary64

namespace Homeplan.Binary64

/-! The shortest decimal that reads back as a given number, and its written form.

Of the decimals with the fewest digits inside the interval that rounds to the number, the one
nearest to the number is taken, and of two equally near the even one.
-/

/-- A decimal `digits * 10 ^ exponent`. -/
structure Decimal where
  digits : Nat
  exponent : Int
deriving DecidableEq, Repr

/-- The interval that rounds to a number, in quarters of the distance to the next number above. -/
structure Neighbourhood where
  low : Nat
  centre : Nat
  high : Nat
  /-- Whether the ends belong to the interval. -/
  closed : Bool
  scale : Nat

/-- The ends lie halfway to the neighbours; below a power of two the neighbour is half as far.  They
round to the number when its mantissa is even. -/
def neighbourhood (number : Binary64) : Neighbourhood where
  low :=
    4 * number.mantissa - (if number.mantissa = Nat.pow 2 52 && number.scale != 0 then 1 else 2)
  centre := 4 * number.mantissa
  high := 4 * number.mantissa + 2
  closed := number.mantissa % 2 = 0
  scale := number.scale

namespace Neighbourhood

/-- Whether `digits * step` lies in the interval, all counted in a common unit. -/
def holds (around : Neighbourhood) (unit step digits : Nat) : Bool :=
  if around.closed then
    around.low * unit ≤ digits * step && digits * step ≤ around.high * unit
  else
    around.low * unit < digits * step && digits * step < around.high * unit

/-- The decimal of the grid `10 ^ exponent` that reads back and is nearest, if there is one. -/
def onGrid (around : Neighbourhood) (exponent : Int) : Option Nat :=
  let unit := Nat.pow 2 around.scale * Nat.pow 10 (-exponent).toNat
  let step := 4 * unitsPerOne * Nat.pow 10 exponent.toNat
  let below := around.centre * unit / step
  let remainder := around.centre * unit % step
  match around.holds unit step below, around.holds unit step (below + 1) with
  | true, true =>
      if 2 * remainder < step then some below
      else if step < 2 * remainder then some (below + 1)
      else if below % 2 = 0 then some below
      else some (below + 1)
  | true, false => some below
  | false, true => some (below + 1)
  | false, false => none

/-- The first grid with a hit, from a coarse grid down. -/
def firstHit (around : Neighbourhood) : Nat → Int → Option Decimal
  | 0, _ => none
  | grids + 1, exponent =>
      match around.onGrid exponent with
      | some digits => some ⟨digits, exponent⟩
      | none => around.firstHit grids (exponent - 1)

end Neighbourhood

def exponentAbove (number : Binary64) : Int :=
  ((number.mantissa.log2 + number.scale : Nat) - 1074 : Int) * 30103 / 100000 + 2

/-- The shortest decimal that reads back as the magnitude of a nonzero number.  Twenty-four grids
reach beyond the seventeen digits that always suffice. -/
def shortest (number : Binary64) : Decimal :=
  (number.neighbourhood.firstHit 24 number.exponentAbove).getD ⟨0, 0⟩

/-- Digits with a point after the first `whole` of them; digits that are missing are zeros, and
at least one digit stands on either side of the point. -/
def positional (digits : List Char) (whole : Int) : List Char :=
  match whole with
  | .ofNat 0 => '0' :: '.' :: digits
  | .ofNat count =>
      let padded := digits ++ List.replicate (count - digits.length) '0'
      let fraction := padded.drop count
      padded.take count ++ '.' :: (if fraction.isEmpty then ['0'] else fraction)
  | .negSucc count => '0' :: '.' :: (List.replicate (count + 1) '0' ++ digits)

/-- Digits with a point after the first one and a signed exponent. -/
def exponential (digits : List Char) (exponent : Int) : List Char :=
  let mantissa := match digits with
    | first :: second :: rest => first :: '.' :: second :: rest
    | short => short
  let sign := if exponent < 0 then '-' else '+'
  mantissa ++ 'e' :: sign :: Nat.toDigits 10 exponent.natAbs

/-- The written form: positional from `1e-5` up to but not including `1e16`, else with an
exponent. -/
def text (number : Binary64) : String :=
  let magnitude :=
    if number.isZero then ['0', '.', '0']
    else
      let decimal := number.shortest
      let digits := Nat.toDigits 10 decimal.digits
      let significant := (digits.reverse.dropWhile (· = '0')).reverse
      let whole : Int := decimal.exponent + digits.length
      if -4 ≤ whole && whole ≤ 16 then positional significant whole
      else exponential significant (whole - 1)
  String.ofList (if number.negative then '-' :: magnitude else magnitude)

end Homeplan.Binary64
