import Homeplan.Document.Toml.Syntax
import Homeplan.Text.Digits

namespace Homeplan.Toml

/-! TOML strings.

Each reader starts behind the opening quotation marks and gives back the characters of the string
with the text after its closing ones.
-/

/-- One more character in front of those read. -/
def push (character : Char) (read : Option (List Char × List Char)) :
    Option (List Char × List Char) :=
  read.map fun (characters, rest) => (character :: characters, rest)

/-- The character whose code point a number of hexadecimal digits give. -/
def codePoint? (width : Nat) (digits : List Char) : Option Char := do
  let point ← Text.number? 16 digits
  if digits.length = width && point.isValidChar then some (Char.ofNat point) else none

/-- The number of hexadecimal digits that a letter announces behind a backslash. -/
def codeWidth? (letter : Char) : Option Nat :=
  if letter = 'u' then some 4
  else if letter = 'U' then some 8
  else none

/-- The character that a letter stands for behind a backslash. -/
def escape? (letter : Char) : Option Char :=
  if letter = '"' || letter = '\\' then some letter
  else if letter = 'b' then some (Char.ofNat 8)
  else if letter = 't' then some '\t'
  else if letter = 'n' then some '\n'
  else if letter = 'f' then some (Char.ofNat 12)
  else if letter = 'r' then some '\r'
  else none

/-- A character by its escape, from behind the backslash, and the text after it. -/
def escaped (text : List Char) : Option (Char × List Char) :=
  match text with
  | [] => none
  | letter :: rest =>
      match codeWidth? letter with
      | some width => (codePoint? width (rest.take width)).map (·, rest.drop width)
      | none => (escape? letter).map (·, rest)

theorem escaped_shorter {text rest : List Char} {character : Char}
    (read : escaped text = some (character, rest)) : rest.length < text.length := by
  unfold escaped at read
  split at read
  · simp at read
  · split at read <;> rename_i found
    · obtain ⟨_, _, same⟩ := Option.map_eq_some_iff.mp read
      obtain ⟨_, rfl⟩ := Prod.mk.inj same
      simp only [List.length_drop, List.length_cons]
      omega
    · obtain ⟨_, _, same⟩ := Option.map_eq_some_iff.mp read
      obtain ⟨_, rfl⟩ := Prod.mk.inj same
      simp

/-- A string in double quotation marks, on one line. -/
def basic (text : List Char) : Option (List Char × List Char) :=
  match text with
  | [] => none
  | '"' :: rest => some ([], rest)
  | '\\' :: rest =>
      match _ : escaped rest with
      | some (character, after) => push character (basic after)
      | none => none
  | character :: rest => if isPrintable character then push character (basic rest) else none
termination_by text.length
decreasing_by
  · have := escaped_shorter ‹_›
    simp only [List.length_cons]
    omega
  · simp

/-- A string in single quotation marks, on one line and without escapes. -/
def literal : List Char → Option (List Char × List Char)
  | [] => none
  | '\'' :: rest => some ([], rest)
  | character :: rest => if isPrintable character then push character (literal rest) else none

/-- The end of a string of many lines, behind three closing marks: up to two more marks are the
last characters of the string. -/
def closing (mark : Char) (text : List Char) : Option (List Char × List Char) :=
  let marks := text.takeWhile (· = mark)
  if marks.length ≤ 2 then some (marks, text.drop marks.length) else none

def skipLines (text : List Char) : List Char :=
  text.dropWhile fun character => isBlank character || character = '\n'

/-- What follows a backslash at the end of a line: the text behind all blanks and line ends. -/
def joined? (text : List Char) : Option (List Char) :=
  match skipBlanks text with
  | '\n' :: rest => some (skipLines rest)
  | _ => none

theorem length_dropWhile_le (keep : Char → Bool) :
    ∀ text : List Char, (text.dropWhile keep).length ≤ text.length :=
  fun _ => (List.dropWhile_suffix keep).length_le

theorem joined_shorter {text rest : List Char} (read : joined? text = some rest) :
    rest.length < text.length := by
  unfold joined? at read
  split at read
  · rename_i after blanks
    have skipped := length_dropWhile_le isBlank text
    have lines := length_dropWhile_le (fun character => isBlank character || character = '\n') after
    rw [show text.dropWhile isBlank = '\n' :: after from blanks] at skipped
    obtain rfl := Option.some.inj read
    simp only [List.length_cons] at skipped
    unfold skipLines
    omega
  · simp at read

/-- A string in three double quotation marks. -/
def multiLineBasic (text : List Char) : Option (List Char × List Char) :=
  match text with
  | [] => none
  | '"' :: '"' :: '"' :: rest => closing '"' rest
  | '\\' :: rest =>
      match _ : joined? rest with
      | some after => multiLineBasic after
      | none =>
          match _ : escaped rest with
          | some (character, after) => push character (multiLineBasic after)
          | none => none
  | character :: rest =>
      if isPrintable character || character = '\n' then push character (multiLineBasic rest)
      else none
termination_by text.length
decreasing_by
  · have := joined_shorter ‹_›
    simp only [List.length_cons]
    omega
  · have := escaped_shorter ‹_›
    simp only [List.length_cons]
    omega
  · simp

/-- A string in three single quotation marks. -/
def multiLineLiteral : List Char → Option (List Char × List Char)
  | [] => none
  | '\'' :: '\'' :: '\'' :: rest => closing '\'' rest
  | character :: rest =>
      if isPrintable character || character = '\n' then push character (multiLineLiteral rest)
      else none

/-- The text behind a line end that follows opening marks directly. -/
def skipFirstLineEnd : List Char → List Char
  | '\n' :: rest => rest
  | text => text

/-- The text of the characters that were read. -/
def together (read : Option (List Char × List Char)) : Option (String × List Char) :=
  read.map fun (characters, rest) => (String.ofList characters, rest)

/-- A string of any form, from its opening marks on. -/
def string : List Char → Option (String × List Char)
  | '"' :: '"' :: '"' :: rest => together (multiLineBasic (skipFirstLineEnd rest))
  | '\'' :: '\'' :: '\'' :: rest => together (multiLineLiteral (skipFirstLineEnd rest))
  | '"' :: rest => together (basic rest)
  | '\'' :: rest => together (literal rest)
  | _ => none

end Homeplan.Toml
