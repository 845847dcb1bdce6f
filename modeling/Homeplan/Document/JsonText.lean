import Homeplan.Document
import Homeplan.Text.Digits

namespace Homeplan.JsonText

/-! Reading JSON text into a document.

Each reader takes the characters that are left and gives back what it read with the characters
after it, or no rest where the text stops being JSON.
-/

def isBlank (character : Char) : Bool :=
  character = ' ' || character = '\n' || character = '\t' || character = '\r'

def skipBlanks (text : List Char) : List Char := text.dropWhile isBlank

/-! ## Strings -/

/-- A piece of a string as written: a character, or a code unit given by four hexadecimal digits. -/
inductive Piece where
  | character (value : Char)
  | unit (value : Nat)
deriving DecidableEq, Repr

/-- The character that a letter stands for after a backslash. -/
def escape? (letter : Char) : Option Char :=
  if letter = '"' || letter = '\\' || letter = '/' then some letter
  else if letter = 'b' then some (Char.ofNat 8)
  else if letter = 'f' then some (Char.ofNat 12)
  else if letter = 'n' then some '\n'
  else if letter = 'r' then some '\r'
  else if letter = 't' then some '\t'
  else none

/-- The pieces up to the closing quotation mark, and the characters after it. -/
def pieces : List Char → Option (List Piece × List Char)
  | [] => none
  | character :: rest =>
      if character = '"' then some ([], rest)
      else if character = '\\' then
        match rest with
        | [] => none
        | letter :: more =>
            if letter = 'u' then
              match more with
              | first :: second :: third :: fourth :: after =>
                  match Text.number? 16 [first, second, third, fourth] with
                  | some unit =>
                      (pieces after).map (fun tail => (.unit unit :: tail.1, tail.2))
                  | none => none
              | _ => none
            else
              match escape? letter with
              | some meant => (pieces more).map (fun tail => (.character meant :: tail.1, tail.2))
              | none => none
      else if character.toNat < 32 then none
      else (pieces rest).map (fun tail => (.character character :: tail.1, tail.2))

/-- The characters that the pieces stand for.  Code units from `0xD800` on come in pairs, a high one
and a low one, that stand for one character; any other use of them stands for nothing. -/
def characters? : List Piece → Option (List Char)
  | [] => some []
  | .character value :: rest => (characters? rest).map (value :: ·)
  | .unit value :: rest =>
      if value < 0xD800 || 0xDFFF < value then
        (characters? rest).map (Char.ofNat value :: ·)
      else if 0xDBFF < value then none
      else
        match rest with
        | .unit low :: after =>
            if 0xDC00 ≤ low && low ≤ 0xDFFF then
              (characters? after).map
                (Char.ofNat (0x10000 + (value - 0xD800) * 1024 + (low - 0xDC00)) :: ·)
            else none
        | _ => none

/-- The document of a string, read from behind its opening quotation mark. -/
def string (text : List Char) : Option (Document × List Char) :=
  (pieces text).map fun (pieces, rest) =>
    match characters? pieces with
    | some characters => (.text (String.ofList characters), rest)
    | none => (.unreadable, rest)

/-! ## Numbers -/

structure Number where
  negative : Bool
  whole : List Char
  fraction : List Char
  /-- The sign and the digits of the exponent. -/
  exponent : Option (Bool × List Char)
deriving DecidableEq, Repr

def splitDigits (text : List Char) : List Char × List Char :=
  (text.takeWhile Char.isDigit, text.dropWhile Char.isDigit)

def exponent : List Char → Option (Option (Bool × List Char) × List Char)
  | letter :: rest =>
      if letter = 'e' || letter = 'E' then
        let (negative, unsigned) := match rest with
          | '+' :: more => (false, more)
          | '-' :: more => (true, more)
          | other => (false, other)
        let (digits, after) := splitDigits unsigned
        if digits.isEmpty then none else some (some (negative, digits), after)
      else some (none, letter :: rest)
  | [] => some (none, [])

/-- A number from its first digit on.  A leading zero stands alone. -/
def number (negative : Bool) (text : List Char) : Option (Number × List Char) := do
  let (whole, rest) := splitDigits text
  if whole.isEmpty || (whole.head? = some '0' && whole.length ≠ 1) then none
  let (fraction, rest) ← match rest with
    | '.' :: more =>
        let (digits, after) := splitDigits more
        if digits.isEmpty then none else some (digits, after)
    | other => some ([], other)
  let (power, rest) ← exponent rest
  some (⟨negative, whole, fraction, power⟩, rest)

def digitsValue (digits : List Char) : Nat := Nat.ofDigitChars 10 digits 0

/-- Continues a significand by digits as long as it fits 64 bits; the digits from the first one
that does not fit are left over. -/
def gather (significand : Nat) : List Char → Nat × List Char
  | [] => (significand, [])
  | digit :: rest =>
      let next := significand * 10 + (digit.toNat - '0'.toNat)
      if next < Nat.pow 2 64 then gather next rest else (significand, digit :: rest)

namespace Number

/-- The value of a number with a fraction or exponent, or too long for an integer: the leading
digits that fit 64 bits, scaled. -/
def approximate (number : Number) : Option Binary64 :=
  let (significand, dropped) := gather 0 number.whole
  let (significand, ignored) := gather significand number.fraction
  let used := number.fraction.length - ignored.length
  let power : Int := match number.exponent with
    | some (true, digits) => -(digitsValue digits : Int)
    | some (false, digits) => digitsValue digits
    | none => 0
  Binary64.ofSignificand number.negative significand ((dropped.length : Int) - used + power)

/-- Integers of 64 bits stay integers, but for minus zero; all else is rounded, and a number beyond
the largest one denotes nothing. -/
def value (number : Number) : Document :=
  let magnitude := digitsValue number.whole
  let isWhole := number.fraction.isEmpty && number.exponent.isNone
  if isWhole && !number.negative && magnitude < Nat.pow 2 64 then .integer magnitude
  else if isWhole && number.negative && 0 < magnitude && magnitude ≤ Nat.pow 2 63 then
    .integer (-(magnitude : Int))
  else
    match number.approximate with
    | some real => .real real
    | none => .unreadable

end Number

/-! ## Values -/

/-- What follows a given word, if the text starts with it. -/
def after? : List Char → List Char → Option (List Char)
  | [], text => some text
  | _ :: _, [] => none
  | expected :: word, character :: text =>
      if expected = character then after? word text else none

/-- A value that is neither a list nor an object, from its first character on. -/
def scalar (text : List Char) : Document × Option (List Char) :=
  let word (expected : String) (value : Document) : Document × Option (List Char) :=
    match after? expected.toList text with
    | some rest => (value, some rest)
    | none => (.broken, none)
  let numeric (read : Option (Number × List Char)) : Document × Option (List Char) :=
    match read with
    | some (number, rest) => (number.value, some rest)
    | none => (.broken, none)
  match text with
  | [] => (.broken, none)
  | '"' :: rest =>
      match string rest with
      | some (value, rest) => (value, some rest)
      | none => (.broken, none)
  | '-' :: rest => numeric (number true rest)
  | 'n' :: _ => word "null" .null
  | 't' :: _ => word "true" (.bool true)
  | 'f' :: _ => word "false" (.bool false)
  | _ => numeric (number false text)

mutual

/-- A value behind blanks.  The first argument bounds the calls that nest; twice the length of the
text suffices. -/
def value : Nat → List Char → Document × Option (List Char)
  | 0, _ => (.broken, none)
  | bound + 1, text =>
      match skipBlanks text with
      | '[' :: rest =>
          match skipBlanks rest with
          | ']' :: after => (.sequence [], some after)
          | content =>
              let (read, after) := items bound content
              (.sequence read, after)
      | '\x7b' :: rest =>
          match skipBlanks rest with
          | '\x7d' :: after => (.mapping [], some after)
          | content =>
              let (read, after) := members bound content
              (.mapping read, after)
      | content => scalar content

/-- The items of a list up to its closing bracket. -/
def items : Nat → List Char → List Document × Option (List Char)
  | 0, _ => ([.broken], none)
  | bound + 1, text =>
      match value bound text with
      | (item, none) => ([item], none)
      | (item, some rest) =>
          match skipBlanks rest with
          | ',' :: content =>
              let (read, after) := items bound content
              (item :: read, after)
          | ']' :: after => ([item], some after)
          | _ => ([item, .broken], none)

/-- The members of an object up to its closing brace. -/
def members : Nat → List Char → List (Document × Document) × Option (List Char)
  | 0, _ => ([(.broken, .broken)], none)
  | bound + 1, text =>
      match skipBlanks text with
      | '"' :: inside =>
          match string inside with
          | none => ([(.broken, .broken)], none)
          | some (name, rest) =>
              match skipBlanks rest with
              | ':' :: content =>
                  match value bound content with
                  | (item, none) => ([(name, item)], none)
                  | (item, some rest) =>
                      match skipBlanks rest with
                      | ',' :: content =>
                          let (read, after) := members bound content
                          ((name, item) :: read, after)
                      | '\x7d' :: after => ([(name, item)], some after)
                      | _ => ([(name, item), (.broken, .broken)], none)
              | _ => ([(name, .broken)], none)
      | _ => ([(.broken, .broken)], none)

end

end JsonText

/-- A JSON text: the document at its start, and whether only blanks follow it. -/
structure JsonText where
  root : Document
  complete : Bool

namespace JsonText

def ofString (text : String) : JsonText :=
  let characters := text.toList
  match value (2 * characters.length + 2) characters with
  | (root, some rest) => ⟨root, (skipBlanks rest).isEmpty⟩
  | (root, none) => ⟨root, false⟩

end JsonText

end Homeplan
