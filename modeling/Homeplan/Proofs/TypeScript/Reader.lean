import Homeplan.Proofs.Document.JsonScalars
import Homeplan.Proofs.Text
import Homeplan.TypeScript.Text
import Mathlib.Tactic.SplitIfs

namespace Homeplan.TypeScript

/-! A reader of expressions, one character at a time.

Behind each character the reader knows the brackets that are open, with the items read in them, and
what it is in the middle of.  It never looks ahead: a name, a number or the property behind a dot
ends at the first character that cannot belong to it, and that character is taken like one that
stands behind a finished expression.  The reader only has to be right about printed text, so it does
not check that a bracket is closed by its own kind.
-/

/-! ## States -/

/-- What the items between two brackets are for. -/
inductive Opener where
  | array
  | call (callee : Expr)
  | construct (type : String)

/-- A bracket that is still open, with the items read behind it. -/
structure OpenList where
  opener : Opener
  items : List Expr

namespace OpenList

def push (list : OpenList) (item : Expr) : OpenList := { list with items := list.items ++ [item] }

/-- The expression that the closing bracket completes. -/
def close (list : OpenList) : Expr :=
  match list.opener with
  | .array => .array list.items
  | .call callee => .call callee list.items
  | .construct type => .construct type list.items

end OpenList

/-- What the reader is in the middle of. -/
inductive Mode where
  /-- An expression comes next, or the end of an empty list. -/
  | start
  /-- Behind a comma. -/
  | comma
  /-- In a name, a keyword or a number. -/
  | word (letters : List Char)
  /-- In the type behind the keyword for a construction. -/
  | type (letters : List Char)
  /-- In single quotes: the key of a property of the owner, or a string if there is none. -/
  | quoted (owner : Option Expr) (letters : List Char)
  /-- In single quotes behind a backslash. -/
  | escape (owner : Option Expr) (letters : List Char)
  /-- Behind a complete expression. -/
  | complete (expr : Expr)
  /-- In the name of a property, behind the dot. -/
  | dot (object : Expr) (letters : List Char)
  /-- Behind the bracket that opens the key of a property. -/
  | bracket (object : Expr)
  /-- Behind the quoted key of a property. -/
  | key (object : Expr) (property : String)
  /-- Behind an expression that is cast; a type is all of the remaining text. -/
  | cast (inner : Expr) (letters : List Char)
  | stuck

structure Reader where
  outer : List OpenList
  mode : Mode

namespace Reader

/-- What a finished word stands for. -/
def wordExpr (letters : List Char) : Expr :=
  if letters = "this".toList then .self
  else if letters = "true".toList then .bool true
  else if letters = "false".toList then .bool false
  else if letters.head? = some '-' then .integer (-(Nat.ofDigitChars 10 letters.tail 0 : Nat))
  else if letters.head?.any Char.isDigit then .integer (Nat.ofDigitChars 10 letters 0 : Nat)
  else .ident (String.ofList letters)

/-- The character that stands behind a backslash for the given one. -/
def unescaped (letter : Char) : Char :=
  if letter = 'n' then '\n' else if letter = 'r' then '\r' else letter

/-- The quotation mark that closes a key of the owner, or a string if there is none. -/
def closeQuotes (text : String) : Option Expr → Mode
  | none => .complete (.string text)
  | some object => .key object text

/-- The bracket that closes the innermost list. -/
def closeList : List OpenList → Reader
  | [] => ⟨[], .stuck⟩
  | list :: others => ⟨others, .complete list.close⟩

/-- The first character of an expression, or the end of an empty list. -/
def enter (outer : List OpenList) (character : Char) : Reader :=
  if character = '\'' then ⟨outer, .quoted none []⟩
  else if character = '[' then ⟨⟨.array, []⟩ :: outer, .start⟩
  else if character = ')' ∨ character = ']' then closeList outer
  else ⟨outer, .word [character]⟩

/-- The character behind a complete expression. -/
def behind (outer : List OpenList) (expr : Expr) (character : Char) : Reader :=
  if character = '.' then ⟨outer, .dot expr []⟩
  else if character = '[' then ⟨outer, .bracket expr⟩
  else if character = '(' then ⟨⟨.call expr, []⟩ :: outer, .start⟩
  else match outer with
    | [] => if character = ' ' then ⟨[], .cast expr [' ']⟩ else ⟨[], .stuck⟩
    | list :: others =>
        if character = ',' then ⟨list.push expr :: others, .comma⟩
        else if character = ')' ∨ character = ']' then closeList (list.push expr :: others)
        else ⟨outer, .stuck⟩

def step (reader : Reader) (character : Char) : Reader :=
  let ⟨outer, mode⟩ := reader
  match mode with
  | .start => enter outer character
  | .comma => if character = ' ' then ⟨outer, .start⟩ else ⟨outer, .stuck⟩
  | .word letters =>
      if isIdentifierPart character then ⟨outer, .word (letters ++ [character])⟩
      else if letters = "new".toList ∧ character = ' ' then ⟨outer, .type []⟩
      else behind outer (wordExpr letters) character
  | .type letters =>
      if character = '(' then ⟨⟨.construct (String.ofList letters), []⟩ :: outer, .start⟩
      else ⟨outer, .type (letters ++ [character])⟩
  | .quoted owner letters =>
      if character = '\\' then ⟨outer, .escape owner letters⟩
      else if character = '\'' then ⟨outer, closeQuotes (String.ofList letters) owner⟩
      else ⟨outer, .quoted owner (letters ++ [character])⟩
  | .escape owner letters => ⟨outer, .quoted owner (letters ++ [unescaped character])⟩
  | .complete expr => behind outer expr character
  | .dot object letters =>
      if isIdentifierPart character then ⟨outer, .dot object (letters ++ [character])⟩
      else behind outer (.member object (String.ofList letters)) character
  | .bracket object =>
      if character = '\'' then ⟨outer, .quoted (some object) []⟩ else ⟨outer, .stuck⟩
  | .key object property =>
      if character = ']' then ⟨outer, .complete (.member object property)⟩ else ⟨outer, .stuck⟩
  | .cast inner letters => ⟨outer, .cast inner (letters ++ [character])⟩
  | .stuck => ⟨outer, .stuck⟩

def run (reader : Reader) (text : List Char) : Reader := text.foldl step reader

/-- The expression that has been read if the text ends here. -/
def result? (reader : Reader) : Option Expr :=
  match reader.outer, reader.mode with
  | [], .word letters => some (wordExpr letters)
  | [], .complete expr => some expr
  | [], .dot object letters => some (.member object (String.ofList letters))
  | [], .cast inner letters => some (.cast inner (String.ofList (letters.drop " as ".length)))
  | _, _ => none

@[simp] theorem run_nil (reader : Reader) : reader.run [] = reader := rfl

@[simp] theorem run_cons (reader : Reader) (character : Char) (text : List Char) :
    reader.run (character :: text) = (reader.step character).run text := rfl

@[simp] theorem run_append (reader : Reader) (before after : List Char) :
    reader.run (before ++ after) = (reader.run before).run after :=
  List.foldl_append

variable {outer : List OpenList} {letters : List Char}

/-! ## Runs that stay in one mode -/

/-- A mode that takes each character of the text collects the text. -/
theorem run_collects {collect : List Char → Mode} {text : List Char}
    (taken : ∀ character ∈ text, ∀ letters,
      step ⟨outer, collect letters⟩ character = ⟨outer, collect (letters ++ [character])⟩) :
    run ⟨outer, collect letters⟩ text = ⟨outer, collect (letters ++ text)⟩ := by
  induction text generalizing letters with
  | nil => simp
  | cons character rest ih =>
      obtain ⟨first, later⟩ := List.forall_mem_cons.mp taken
      rw [run_cons, first, ih later, List.append_assoc, List.singleton_append]

theorem run_word {text : List Char} (parts : ∀ part ∈ text, isIdentifierPart part = true) :
    run ⟨outer, .word letters⟩ text = ⟨outer, .word (letters ++ text)⟩ :=
  run_collects fun part member letters => by rw [step, if_pos (parts part member)]

theorem run_dot {object : Expr} {text : List Char}
    (parts : ∀ part ∈ text, isIdentifierPart part = true) :
    run ⟨outer, .dot object letters⟩ text = ⟨outer, .dot object (letters ++ text)⟩ :=
  run_collects fun part member letters => by rw [step, if_pos (parts part member)]

theorem run_type {text : List Char} (closed : '(' ∉ text) :
    run ⟨outer, .type letters⟩ text = ⟨outer, .type (letters ++ text)⟩ :=
  run_collects fun letter member letters => by
    rw [step, if_neg (ne_of_mem_of_not_mem member closed)]

theorem run_cast {inner : Expr} {text : List Char} :
    run ⟨outer, .cast inner letters⟩ text = ⟨outer, .cast inner (letters ++ text)⟩ :=
  run_collects fun _ _ _ => rfl

theorem run_escaped {owner : Option Expr} (character : Char) :
    run ⟨outer, .quoted owner letters⟩ (escaped character) =
      ⟨outer, .quoted owner (letters ++ [character])⟩ := by
  unfold escaped
  split_ifs with backslash quotation feed returns
  · subst backslash; rfl
  · subst quotation; rfl
  · subst feed; rfl
  · subst returns; rfl
  · rw [run_cons, step, if_neg backslash, if_neg quotation, run_nil]

/-- Between its quotes a text is read as it was, whatever characters it has. -/
theorem run_quoted {owner : Option Expr} (text : List Char) :
    run ⟨outer, .quoted owner letters⟩ (text.flatMap escaped) =
      ⟨outer, .quoted owner (letters ++ text)⟩ := by
  induction text generalizing letters with
  | nil => simp
  | cons character rest ih =>
      rw [List.flatMap_cons, run_append, run_escaped, ih, List.append_assoc, List.singleton_append]

/-! ## Words -/

/-- What can stand beside a word without being part of it. -/
def isSeparator (character : Char) : Bool :=
  ['.', '[', '(', ',', ')', ']', ' ', '\'', '-'].contains character

theorem notPart_of_isSeparator {character : Char} (separates : isSeparator character = true) :
    isIdentifierPart character = false := by
  have none : ['.', '[', '(', ',', ')', ']', ' ', '\'', '-'].all (!isIdentifierPart ·) = true := by
    decide +kernel
  simpa using List.all_eq_true.mp none character (List.contains_iff_mem.mp separates)

theorem isIdentifierPart_of_start {character : Char} (start : isIdentifierStart character = true) :
    isIdentifierPart character = true := by
  simp only [isIdentifierStart, isIdentifierPart, Text.isAlphanumeric, Bool.or_eq_true] at start ⊢
  exact start.imp_left (Or.imp_left Or.inl)

theorem isIdentifierPart_of_isDigit {digit : Char} (isDigit : digit.isDigit = true) :
    isIdentifierPart digit = true := by
  simp [isIdentifierPart, Text.isAlphanumeric_of_isDigit isDigit]

theorem not_isIdentifierStart_of_isDigit {digit : Char} (isDigit : digit.isDigit = true) :
    isIdentifierStart digit = false := by
  have digits : ∀ point ∈ List.range' 48 10, isIdentifierStart (Char.ofNat point) = false := by
    decide +kernel
  simp only [Char.isDigit, Bool.and_eq_true, decide_eq_true_eq, UInt32.le_iff_toNat_le] at isDigit
  have within : digit.toNat ∈ List.range' 48 10 :=
    List.mem_range'_1.mpr ⟨isDigit.1, Nat.lt_succ_of_le isDigit.2⟩
  simpa using digits digit.toNat within

/-- An identifier starts a word and goes on with it. -/
theorem parts_of_isIdentifier {name : String} (identifier : isIdentifier name = true) :
    ∃ first rest, name.toList = first :: rest ∧ isIdentifierStart first = true ∧
      ∀ part ∈ name.toList, isIdentifierPart part = true := by
  unfold isIdentifier at identifier
  cases letters : name.toList with
  | nil => simp [letters] at identifier
  | cons first rest =>
      simp only [letters, Bool.and_eq_true, List.all_eq_true] at identifier
      exact ⟨first, rest, rfl, identifier.1,
        List.forall_mem_cons.mpr ⟨isIdentifierPart_of_start identifier.1, identifier.2⟩⟩

/-- A word starts with a part of an identifier or a minus sign, and goes on with parts. -/
theorem run_start_word {first : Char} {rest : List Char}
    (start : isIdentifierPart first = true ∨ first = '-')
    (parts : ∀ part ∈ rest, isIdentifierPart part = true) :
    run ⟨outer, .start⟩ (first :: rest) = ⟨outer, .word (first :: rest)⟩ := by
  have differs {other : Char} (separates : isSeparator other = true) (notMinus : other ≠ '-') :
      first ≠ other := by
    rintro rfl
    rcases start with part | minus
    · simp [notPart_of_isSeparator separates] at part
    · exact notMinus minus
  have quotation : first ≠ '\'' := differs rfl (by decide)
  have bracket : first ≠ '[' := differs rfl (by decide)
  have closing : ¬ (first = ')' ∨ first = ']') :=
    not_or.mpr ⟨differs rfl (by decide), differs rfl (by decide)⟩
  rw [run_cons, step, enter, if_neg quotation, if_neg bracket, if_neg closing, run_word parts,
    List.singleton_append]

theorem run_start_keyword {first : Char} {rest : List Char}
    (parts : (first :: rest).all isIdentifierPart = true) :
    run ⟨outer, .start⟩ (first :: rest) = ⟨outer, .word (first :: rest)⟩ := by
  obtain ⟨start, later⟩ := List.forall_mem_cons.mp (List.all_eq_true.mp parts)
  exact run_start_word (Or.inl start) later

theorem wordExpr_ident {name : String} (identifier : isIdentifier name = true)
    (keyword : name ≠ "this" ∧ name ≠ "true" ∧ name ≠ "false") :
    wordExpr name.toList = .ident name := by
  obtain ⟨first, rest, letters, start, -⟩ := parts_of_isIdentifier identifier
  have notMinus : name.toList.head? ≠ some '-' := by
    rw [letters]
    rintro ⟨⟩
    have part := isIdentifierPart_of_start start
    simp [@notPart_of_isSeparator '-' rfl] at part
  have notDigit : ¬ name.toList.head?.any Char.isDigit = true := by
    intro isDigit
    simp [not_isIdentifierStart_of_isDigit (by simpa [letters] using isDigit)] at start
  have differs {other : String} (different : name ≠ other) : name.toList ≠ other.toList :=
    fun same => different (String.toList_inj.mp same)
  rw [wordExpr, if_neg (differs keyword.1), if_neg (differs keyword.2.1),
    if_neg (differs keyword.2.2), if_neg notMinus, if_neg notDigit, String.ofList_toList]

theorem wordExpr_digits (value : Nat) :
    wordExpr (Nat.toDigits 10 value) = .integer value := by
  obtain ⟨first, rest, letters⟩ := List.exists_cons_of_ne_nil (@Nat.toDigits_ne_nil value 10)
  have isDigit : first.isDigit = true :=
    Nat.isDigit_of_mem_toDigits (by decide) (by decide) (letters ▸ List.mem_cons_self ..)
  have differs {other : Char} (notDigit : other.isDigit = false) {word : List Char}
      (start : word.head? = some other) : Nat.toDigits 10 value ≠ word := by
    rintro rfl
    rw [letters] at start
    exact JsonText.ne_of_digit isDigit notDigit (Option.some.inj start)
  have notMinus : (Nat.toDigits 10 value).head? ≠ some '-' := fun minus => differs rfl minus rfl
  rw [wordExpr, if_neg (differs rfl rfl), if_neg (differs rfl rfl), if_neg (differs rfl rfl),
    if_neg notMinus, if_pos (by simpa [letters] using isDigit), Nat.ofDigitChars_ten_toDigits]

theorem wordExpr_minus (value : Nat) :
    wordExpr ('-' :: Nat.toDigits 10 value) = .integer (-(value : Int)) := by
  have differs {word : List Char} (start : word.head? ≠ some '-') :
      '-' :: Nat.toDigits 10 value ≠ word := by
    rintro rfl
    exact start rfl
  rw [wordExpr, if_neg (differs (by decide)), if_neg (differs (by decide)),
    if_neg (differs (by decide)), List.head?_cons, if_pos rfl, List.tail_cons,
    Nat.ofDigitChars_ten_toDigits]

theorem wordExpr_integer (value : Int) :
    wordExpr (toString value).toList = .integer value := by
  rw [JsonText.toList_toString]
  split
  · rw [wordExpr_minus]
    exact congrArg Expr.integer (by omega)
  · rw [wordExpr_digits]
    exact congrArg Expr.integer (by omega)

theorem run_start_integer (value : Int) :
    run ⟨outer, .start⟩ (toString value).toList = ⟨outer, .word (toString value).toList⟩ := by
  have digits : ∀ digit ∈ Nat.toDigits 10 value.natAbs, isIdentifierPart digit = true :=
    fun _ member => isIdentifierPart_of_isDigit
      (Nat.isDigit_of_mem_toDigits (by decide) (by decide) member)
  rw [JsonText.toList_toString]
  split
  · exact run_start_word (Or.inr rfl) digits
  · obtain ⟨first, rest, letters⟩ :=
      List.exists_cons_of_ne_nil (@Nat.toDigits_ne_nil value.natAbs 10)
    rw [letters] at digits ⊢
    obtain ⟨start, parts⟩ := List.forall_mem_cons.mp digits
    exact run_start_word (Or.inl start) parts

end Reader

end Homeplan.TypeScript
