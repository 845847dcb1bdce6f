import Homeplan.Document.Toml.Scalars

namespace Homeplan.Toml

/-! Reading TOML text into statements. -/

/-! ## Keys -/

/-- A character of a name without quotation marks. -/
def isBare (character : Char) : Bool :=
  character.isAlphanum || character = '_' || character = '-'

def name? (text : List Char) : Option (String × List Char) :=
  match text with
  | '"' :: rest => together (basic rest)
  | '\'' :: rest => together (literal rest)
  | _ =>
      let found := text.takeWhile isBare
      if found.isEmpty then none else some (String.ofList found, text.drop found.length)

/-- A key with the blanks around it.  The first argument bounds its names. -/
def key? : Nat → List Char → Option (KeyPath × List Char)
  | 0, _ => none
  | names + 1, text => do
      let (name, rest) ← name? (skipBlanks text)
      match skipBlanks rest with
      | '.' :: more =>
          let (path, after) ← key? names more
          some (path.below name, after)
      | after => some (⟨[], name⟩, after)

/-- A key has at most 79 names. -/
def key (text : List Char) : Option (KeyPath × List Char) := key? 79 text

/-! ## Values -/

mutual

/-- A value, of which at most `levels` lists and tables stand inside each other.  The first argument
bounds the calls that nest; twice the length of the text suffices. -/
def value : Nat → Nat → List Char → Option (Value × List Char)
  | 0, _, _ => none
  | bound + 1, levels, text =>
      match text, levels with
      | '[' :: _, 0 | '\x7b' :: _, 0 => none
      | '[' :: rest, levels + 1 => do
          let (items, after) ← items bound levels rest
          some (.array items, after)
      | '\x7b' :: rest, levels + 1 =>
          match skipBlanks rest with
          | '\x7d' :: after => some (.inline [], after)
          | content => do
              let (entries, after) ← entries bound levels content
              some (.inline entries, after)
      | other, _ => (scalar other).map fun (document, after) => (.scalar document, after)

/-- The items of a list up to its closing bracket; a comma may follow the last one. -/
def items : Nat → Nat → List Char → Option (List Value × List Char)
  | 0, _, _ => none
  | bound + 1, levels, text =>
      match skipGaps false text with
      | ']' :: after => some ([], after)
      | content => do
          let (item, rest) ← value bound levels content
          match skipGaps false rest with
          | ',' :: more =>
              let (others, after) ← items bound levels more
              some (item :: others, after)
          | ']' :: after => some ([item], after)
          | _ => none

/-- The entries of a table in braces, on one line and without a comma behind the last one. -/
def entries : Nat → Nat → List Char → Option (List (KeyPath × Value) × List Char)
  | 0, _, _ => none
  | bound + 1, levels, text => do
      let (path, rest) ← key text
      let rest ← after? '=' rest
      let (value, rest) ← value bound levels (skipBlanks rest)
      match skipBlanks rest with
      | ',' :: more =>
          let (others, after) ← entries bound levels more
          some ((path, value) :: others, after)
      | '\x7d' :: after => some ([(path, value)], after)
      | _ => none

end

/-! ## Statements -/

/-- A statement at its first character, without the end of its line. -/
def statement (text : List Char) : Option (Statement × List Char) := do
  match text with
  | '[' :: '[' :: rest =>
      let (path, rest) ← key rest
      let rest ← after? ']' rest
      let after ← after? ']' rest
      some (.element path, after)
  | '[' :: rest =>
      let (path, rest) ← key rest
      let after ← after? ']' rest
      some (.table path, after)
  | _ =>
      let (path, rest) ← key text
      let rest ← after? '=' rest
      let (value, after) ← value (2 * text.length + 2) 79 (skipBlanks rest)
      some (.entry path value, after)

/-- Statements up to the end of the text.  The first argument bounds their number. -/
def statements : Nat → List Char → Option (List Statement)
  | 0, _ => none
  | bound + 1, text =>
      match skipGaps false text with
      | [] => some []
      | content => do
          let (first, rest) ← statement content
          let rest ← endLine rest
          let others ← statements bound rest
          some (first :: others)

def byteOrderMark : Char := Char.ofNat 0xFEFF

/-- The statements of a whole text, which a byte order mark may precede. -/
def statementsOf (text : String) : Option (List Statement) :=
  let characters := match text.toList with
    | first :: rest => if first = byteOrderMark then rest else first :: rest
    | [] => []
  statements (characters.length + 1) (unifyLineEnds characters)

end Homeplan.Toml
