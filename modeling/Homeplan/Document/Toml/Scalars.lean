import Homeplan.Document.Toml.DateTime

namespace Homeplan.Toml

/-! TOML values that are neither lists nor tables. -/

/-- The digits of a run, in which an underscore stands only between two of them. -/
def ungrouped? : List Char → Option (List Char)
  | [] => none
  | [digit] => if digit = '_' then none else some [digit]
  | digit :: '_' :: rest => if digit = '_' then none else (ungrouped? rest).map (digit :: ·)
  | digit :: rest => if digit = '_' then none else (ungrouped? rest).map (digit :: ·)

/-- The digits that a text starts with, at least one. -/
def digits (isDigit : Char → Bool) (text : List Char) : Option (List Char × List Char) := do
  let belongs (character : Char) : Bool := isDigit character || character = '_'
  let found ← ungrouped? (text.takeWhile belongs)
  some (found, text.dropWhile belongs)

def digitsValue (digits : List Char) : Nat := Nat.ofDigitChars 10 digits 0

/-! ## Integers -/

def integer (value : Int) : Option Document :=
  if -0x8000000000000000 ≤ value && value < 0x8000000000000000 then some (.integer value)
  else none

/-- An integer in another base, from behind the letter that names it. -/
def based (base : Nat) (text : List Char) : Option (Document × List Char) := do
  let (found, rest) ← digits (fun character => (Text.digit? base character).isSome) text
  let value ← Text.number? base found
  let document ← integer value
  some (document, rest)

/-- The base that a letter behind a zero names. -/
def base? (letter : Char) : Option Nat :=
  if letter = 'x' then some 16
  else if letter = 'o' then some 8
  else if letter = 'b' then some 2
  else none

/-! ## Decimal numbers -/

/-- The digits behind a point, if there is one. -/
def fraction : List Char → Option (Option (List Char) × List Char)
  | '.' :: rest => (digits Char.isDigit rest).map fun (found, after) => (some found, after)
  | text => some (none, text)

def sign : List Char → Bool × List Char
  | '-' :: rest => (true, rest)
  | '+' :: rest => (false, rest)
  | text => (false, text)

/-- The exponent behind its letter, if there is one. -/
def exponent (text : List Char) : Option (Option Int × List Char) :=
  match text with
  | [] => some (none, [])
  | letter :: rest =>
      if letter = 'e' || letter = 'E' then do
        let (negative, unsigned) := sign rest
        let (found, after) ← digits Char.isDigit unsigned
        let size : Int := digitsValue found
        some (some (if negative then -size else size), after)
      else some (none, text)

/-- A number with a fraction or an exponent.  Too large a number is refused above zero and infinite
below. -/
def real (negative : Bool) (whole fraction : List Char) (power : Int) : Option Document :=
  match Binary64.ofDecimal negative (digitsValue (whole ++ fraction))
      (power - fraction.length) with
  | some value => some (.real value)
  | none => if negative then some .unbounded else none

/-- A decimal number behind its sign.  Only a zero that stands alone may come first. -/
def decimal (negative : Bool) (text : List Char) : Option (Document × List Char) := do
  let (whole, rest) ← digits Char.isDigit text
  if whole.head? = some '0' && whole.length ≠ 1 then none
  let (fraction, rest) ← fraction rest
  let (power, rest) ← exponent rest
  let document ←
    if fraction.isNone && power.isNone then
      let size : Int := digitsValue whole
      integer (if negative then -size else size)
    else real negative whole (fraction.getD []) (power.getD 0)
  some (document, rest)

/-! ## All scalars -/

/-- What follows a given word, if the text starts with it. -/
def afterWord? (word : String) (text : List Char) : Option (List Char) :=
  if word.toList.isPrefixOf text then some (text.drop word.length) else none

/-- A number that may carry a sign: decimal, infinite or none at all. -/
def signed (text : List Char) : Option (Document × List Char) :=
  let (negative, unsigned) := sign text
  match afterWord? "inf" unsigned, afterWord? "nan" unsigned with
  | some rest, _ | none, some rest => some (.unbounded, rest)
  | none, none => decimal negative unsigned

def number (text : List Char) : Option (Document × List Char) :=
  match text with
  | '0' :: letter :: rest =>
      match base? letter with
      | some base => based base rest
      | none => signed text
  | _ => signed text

def scalar (text : List Char) : Option (Document × List Char) :=
  match string text with
  | some (value, rest) => some (.text value, rest)
  | none =>
      match afterWord? "true" text, afterWord? "false" text with
      | some rest, _ => some (.bool true, rest)
      | none, some rest => some (.bool false, rest)
      | none, none =>
          match dateTime? text with
          | some (value, rest) => some (value.document, rest)
          | none => number text

end Homeplan.Toml
