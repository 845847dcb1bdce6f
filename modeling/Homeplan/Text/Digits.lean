namespace Homeplan.Text

/-! Digits of the bases up to sixteen.  Letters count in either case. -/

def hexDigit? (digit : Char) : Option Nat :=
  if '0' ≤ digit && digit ≤ '9' then some (digit.toNat - '0'.toNat)
  else if 'a' ≤ digit && digit ≤ 'f' then some (digit.toNat - 'a'.toNat + 10)
  else if 'A' ≤ digit && digit ≤ 'F' then some (digit.toNat - 'A'.toNat + 10)
  else none

def digit? (base : Nat) (digit : Char) : Option Nat :=
  (hexDigit? digit).filter (· < base)

def number? (base : Nat) (digits : List Char) : Option Nat := do
  let values ← digits.mapM (digit? base)
  return values.foldl (fun number value => number * base + value) 0

end Homeplan.Text
