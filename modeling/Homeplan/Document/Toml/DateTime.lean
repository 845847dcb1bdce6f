import Homeplan.Document.Toml.Strings

namespace Homeplan.Toml

/-! Dates and times, as TOML writes them and as they stand in a document. -/

structure Date where
  year : Nat
  month : Nat
  day : Nat
deriving DecidableEq, Repr

structure Time where
  hour : Nat
  minute : Nat
  second : Nat
  nanosecond : Nat
deriving DecidableEq, Repr

inductive Offset where
  | utc
  | shifted (west : Bool) (hours minutes : Nat)
deriving DecidableEq, Repr

inductive DateTime where
  | date (date : Date)
  | time (time : Time)
  | both (date : Date) (time : Time) (offset : Option Offset)
deriving DecidableEq, Repr

/-! ## Text -/

/-- A number in at least so many digits. -/
def padded (width number : Nat) : String :=
  let digits := Nat.toDigits 10 number
  String.ofList (List.replicate (width - digits.length) '0' ++ digits)

def Date.text (date : Date) : String :=
  padded 4 date.year ++ "-" ++ padded 2 date.month ++ "-" ++ padded 2 date.day

/-- A fraction of a second, without zeros at its end. -/
def fractionText (nanosecond : Nat) : String :=
  if nanosecond = 0 then ""
  else
    let digits := (padded 9 nanosecond).toList
    "." ++ String.ofList (digits.reverse.dropWhile (· = '0')).reverse

def Time.text (time : Time) : String :=
  padded 2 time.hour ++ ":" ++ padded 2 time.minute ++ ":" ++ padded 2 time.second ++
    fractionText time.nanosecond

/-- No distance is written without a minus sign. -/
def Offset.text : Offset → String
  | .utc => "Z"
  | .shifted west hours minutes =>
      (if west && (hours, minutes) ≠ (0, 0) then "-" else "+") ++
        padded 2 hours ++ ":" ++ padded 2 minutes

def DateTime.text : DateTime → String
  | .date day => day.text
  | .time clock => clock.text
  | .both day clock offset =>
      day.text ++ "T" ++ clock.text ++ (offset.map Offset.text).getD ""

/-- A date or time in a document: a mapping with its text as the only value. -/
def DateTime.document (dateTime : DateTime) : Document :=
  .mapping [(.text "$__toml_private_datetime", .text dateTime.text)]

/-! ## Reading -/

def isLeapYear (year : Nat) : Bool :=
  year % 4 = 0 && (year % 100 ≠ 0 || year % 400 = 0)

def daysInMonth (year month : Nat) : Nat :=
  if month = 2 then (if isLeapYear year then 29 else 28)
  else if month = 4 || month = 6 || month = 9 || month = 11 then 30
  else 31

def Date.isValid (date : Date) : Bool :=
  1 ≤ date.month && date.month ≤ 12 && 1 ≤ date.day && date.day ≤ daysInMonth date.year date.month

/-- A second may be a leap second. -/
def Time.isValid (time : Time) : Bool :=
  time.hour ≤ 23 && time.minute ≤ 59 && time.second ≤ 60

/-- A number in so many digits. -/
def fixed? (width : Nat) (text : List Char) : Option (Nat × List Char) :=
  let digits := text.take width
  if digits.length = width && digits.all Char.isDigit then
    some (Nat.ofDigitChars 10 digits 0, text.drop width)
  else none

/-- What follows a character, if the text starts with it. -/
def after? (expected : Char) : List Char → Option (List Char)
  | [] => none
  | character :: rest => if character = expected then some rest else none

def date? (text : List Char) : Option (Date × List Char) := do
  let (year, rest) ← fixed? 4 text
  let rest ← after? '-' rest
  let (month, rest) ← fixed? 2 rest
  let rest ← after? '-' rest
  let (day, rest) ← fixed? 2 rest
  if Date.isValid ⟨year, month, day⟩ then some (⟨year, month, day⟩, rest) else none

/-- The fraction that may follow a second, of which nine digits count. -/
def nanosecond (text : List Char) : Nat × List Char :=
  match text with
  | '.' :: fraction =>
      let digits := fraction.takeWhile Char.isDigit
      let counted := digits.take 9
      if digits.isEmpty then (0, text)
      else
        (Nat.ofDigitChars 10 counted 0 * Nat.pow 10 (9 - counted.length),
          fraction.drop digits.length)
  | _ => (0, text)

def time? (text : List Char) : Option (Time × List Char) := do
  let (hour, rest) ← fixed? 2 text
  let rest ← after? ':' rest
  let (minute, rest) ← fixed? 2 rest
  let rest ← after? ':' rest
  let (second, rest) ← fixed? 2 rest
  let (nanosecond, rest) := nanosecond rest
  let time : Time := ⟨hour, minute, second, nanosecond⟩
  if time.isValid then some (time, rest) else none

def offset? : List Char → Option (Option Offset × List Char)
  | sign :: rest =>
      if sign = 'Z' || sign = 'z' then some (some .utc, rest)
      else if sign = '+' || sign = '-' then do
        let (hours, rest) ← fixed? 2 rest
        let rest ← after? ':' rest
        let (minutes, rest) ← fixed? 2 rest
        if hours ≤ 23 && minutes ≤ 59 then some (some (.shifted (sign = '-') hours minutes), rest)
        else none
      else some (none, sign :: rest)
  | [] => some (none, [])

/-- The time that may follow a date, and its offset. -/
def timeBehind? (text : List Char) : Option ((Time × Option Offset) × List Char) :=
  match text with
  | [] => none
  | separator :: rest =>
      if separator = 'T' || separator = 't' || separator = ' ' then do
        let (time, rest) ← time? rest
        let (offset, rest) ← offset? rest
        some ((time, offset), rest)
      else none

/-- A date, a time, or a date with a time. -/
def dateTime? (text : List Char) : Option (DateTime × List Char) :=
  match date? text with
  | some (date, rest) =>
      match timeBehind? rest with
      | some ((time, offset), after) => some (.both date time offset, after)
      | none => some (.date date, rest)
  | none => (time? text).map fun (time, rest) => (.time time, rest)

end Homeplan.Toml
