import Homeplan.Document.JsonText
import Mathlib.Tactic.SplitIfs

namespace Homeplan.JsonText

/-! The compact text of a string or an integer is read back as it was, whatever follows it.

A string ends at its closing quotation mark.  An integer has no end of its own, so the text behind
it must not go on with a number; inside a compact text it never does.
-/

/-! ## Strings -/

theorem pieces_quote (rest : List Char) : pieces ('"' :: rest) = some ([], rest) := by
  rw [pieces.eq_def]
  rfl

theorem pieces_letter {letter meant : Char} (found : escape? letter = some meant)
    (rest : List Char) :
    pieces ('\\' :: letter :: rest) =
      (pieces rest).map fun tail => (.character meant :: tail.1, tail.2) := by
  have notUnit : letter ≠ 'u' := by
    rintro rfl
    contradiction
  rw [pieces.eq_def]
  simp [notUnit, found]

theorem pieces_unit {first second third fourth : Char} {unit : Nat}
    (found : Text.number? 16 [first, second, third, fourth] = some unit) (rest : List Char) :
    pieces ('\\' :: 'u' :: first :: second :: third :: fourth :: rest) =
      (pieces rest).map fun tail => (.unit unit :: tail.1, tail.2) := by
  rw [pieces.eq_def]
  simp [found]

theorem pieces_plain {character : Char} (notQuote : character ≠ '"')
    (notBackslash : character ≠ '\\') (visible : 32 ≤ character.toNat) (rest : List Char) :
    pieces (character :: rest) =
      (pieces rest).map fun tail => (.character character :: tail.1, tail.2) := by
  have notControl : ¬ character.toNat < 32 := by omega
  rw [pieces.eq_def]
  simp [notQuote, notBackslash, notControl]

/-- The piece stands for the character on its own, whatever pieces follow. -/
def Piece.Means (piece : Piece) (character : Char) : Prop :=
  ∀ later, characters? (piece :: later) = (characters? later).map (character :: ·)

theorem means_character (character : Char) : (Piece.character character).Means character := by
  intro later
  rw [characters?]

theorem means_unit {character : Char} (control : character.toNat < 32) :
    (Piece.unit character.toNat).Means character := by
  have single : (character.toNat < 0xD800 || 0xDFFF < character.toNat) = true := by
    simp
    omega
  intro later
  rw [characters?.eq_def]
  simp [single, Char.ofNat_toNat]

theorem number?_control : ∀ point < 32,
    Text.number? 16 ['0', '0', Nat.digitChar (point / 16), Nat.digitChar (point % 16)] =
      some point := by
  decide

/-- The form of a character inside a string is one piece that means it. -/
theorem exists_piece (character : Char) : ∃ piece : Piece, piece.Means character ∧
    ∀ rest, pieces (Json.escaped character ++ rest) =
      (pieces rest).map fun tail => (piece :: tail.1, tail.2) := by
  have byLetter (letter : Char) (found : escape? letter = some character) :
      ∃ piece : Piece, piece.Means character ∧ ∀ rest, pieces (['\\', letter] ++ rest) =
        (pieces rest).map fun tail => (piece :: tail.1, tail.2) :=
    ⟨.character character, means_character character, pieces_letter found⟩
  have ofCode {code : Nat} (same : character.toNat = code) : Char.ofNat code = character := by
    rw [← same, Char.ofNat_toNat]
  unfold Json.escaped
  split_ifs with quote backslash backspace tab newline formFeed carriageReturn control
  · subst quote
    exact byLetter '"' rfl
  · subst backslash
    exact byLetter '\\' rfl
  · exact byLetter 'b' (ofCode backspace ▸ rfl)
  · exact byLetter 't' (ofCode tab ▸ rfl)
  · exact byLetter 'n' (ofCode newline ▸ rfl)
  · exact byLetter 'f' (ofCode formFeed ▸ rfl)
  · exact byLetter 'r' (ofCode carriageReturn ▸ rfl)
  · exact ⟨_, means_unit control, pieces_unit (number?_control _ control)⟩
  · exact ⟨_, means_character character, pieces_plain quote backslash (Nat.not_lt.mp control)⟩

theorem pieces_compact (characters rest : List Char) :
    ∃ read, pieces (characters.flatMap Json.escaped ++ '"' :: rest) = some (read, rest) ∧
      characters? read = some characters := by
  induction characters with
  | nil => exact ⟨[], pieces_quote rest, rfl⟩
  | cons character later ih =>
      obtain ⟨read, laterRead, laterMeant⟩ := ih
      obtain ⟨piece, means, pieceRead⟩ := exists_piece character
      refine ⟨piece :: read, ?_, ?_⟩
      · rw [List.flatMap_cons, List.append_assoc, pieceRead, laterRead]
        rfl
      · rw [means, laterMeant]
        rfl

/-- A string is read back from behind its opening quotation mark. -/
theorem string_compact (value : String) (rest : List Char) :
    string (value.toList.flatMap Json.escaped ++ '"' :: rest) = some (.text value, rest) := by
  obtain ⟨read, isRead, meant⟩ := pieces_compact value.toList rest
  simp [string, isRead, meant]

/-! ## Integers -/

/-- What stands behind a value inside a compact text: nothing, or what ends the value. -/
def Ends (rest : List Char) : Prop :=
  ∀ character ∈ rest.head?, character = ',' ∨ character = ']' ∨ character = '\x7d'

theorem splitDigits_append {digits rest : List Char}
    (areDigits : ∀ digit ∈ digits, digit.isDigit = true) (ends : Ends rest) :
    splitDigits (digits ++ rest) = (digits, rest) := by
  have stop : rest.takeWhile Char.isDigit = [] ∧ rest.dropWhile Char.isDigit = rest := by
    cases rest with
    | nil => exact ⟨rfl, rfl⟩
    | cons character later =>
        rcases ends character rfl with rfl | rfl | rfl <;> exact ⟨rfl, rfl⟩
  rw [splitDigits, List.takeWhile_append_of_pos areDigits, List.dropWhile_append_of_pos areDigits,
    stop.1, stop.2, List.append_nil]

theorem toDigits_head_ne_zero {value : Nat} (positive : 0 < value) :
    (Nat.toDigits 10 value).head? ≠ some '0' := by
  induction value using Nat.strongRecOn with
  | ind value ih =>
      rw [Nat.toDigits_eq_if (by decide)]
      by_cases single : value < 10
      · rw [if_pos single]
        have digits : ∀ digit < 10, 0 < digit → [Nat.digitChar digit].head? ≠ some '0' := by decide
        exact digits value single positive
      · have earlier := ih (value / 10) (by omega) (by omega)
        obtain ⟨first, others, digits⟩ :=
          List.exists_cons_of_ne_nil (@Nat.toDigits_ne_nil (value / 10) 10)
        rw [digits] at earlier
        rw [if_neg single, digits]
        exact earlier

theorem number_digits (negative : Bool) (value : Nat) {rest : List Char} (ends : Ends rest) :
    number negative (Nat.toDigits 10 value ++ rest) =
      some (⟨negative, Nat.toDigits 10 value, [], none⟩, rest) := by
  have split : splitDigits (Nat.toDigits 10 value ++ rest) = (Nat.toDigits 10 value, rest) :=
    splitDigits_append (fun _ => Nat.isDigit_of_mem_toDigits (by decide) (by decide)) ends
  have wellFormed : ((Nat.toDigits 10 value).isEmpty || ((Nat.toDigits 10 value).head? = some '0' &&
      (Nat.toDigits 10 value).length ≠ 1)) = false := by
    simp only [Bool.or_eq_false_iff, List.isEmpty_eq_false_iff, Nat.toDigits_ne_nil, ne_eq,
      not_false_eq_true, true_and, Bool.and_eq_false_iff, decide_eq_false_iff_not]
    rcases Nat.eq_zero_or_pos value with zero | positive
    · exact Or.inr (by simp [zero])
    · exact Or.inl (toDigits_head_ne_zero positive)
  -- Neither a point nor an exponent can follow, whatever ends the value.
  unfold number
  rw [split]
  simp only [wellFormed, Bool.false_eq_true, if_false]
  cases rest with
  | nil => rfl
  | cons character later => rcases ends character rfl with rfl | rfl | rfl <;> rfl

theorem value_digits {value : Nat} (small : value < Nat.pow 2 64) :
    (Number.mk false (Nat.toDigits 10 value) [] none).value = .integer value := by
  simp [Number.value, digitsValue, Nat.ofDigitChars_ten_toDigits, small]

theorem value_negative_digits {value : Nat} (positive : 0 < value)
    (small : value ≤ Nat.pow 2 63) :
    (Number.mk true (Nat.toDigits 10 value) [] none).value = .integer (-(value : Int)) := by
  simp only [Number.value, digitsValue, Nat.ofDigitChars_ten_toDigits, List.isEmpty_nil,
    Option.isNone_none, Bool.and_self, Bool.not_true, positive, small, decide_true, if_true]
  rfl

/-- The text of an integer is its digits, behind a minus sign if it is negative. -/
theorem toList_toString (value : Int) :
    (toString value).toList =
      if value < 0 then '-' :: Nat.toDigits 10 value.natAbs else Nat.toDigits 10 value.natAbs := by
  rw [Int.toString_eq_repr, Int.repr_eq_if]
  by_cases natural : 0 ≤ value
  · have digits : value.toNat = value.natAbs := by omega
    rw [if_pos natural, if_neg (by omega), Nat.toList_repr, digits]
  · have digits : (-value).toNat = value.natAbs := by omega
    rw [if_neg natural, if_pos (by omega), String.toList_append, Nat.toList_repr, digits]
    rfl

theorem ne_of_digit {digit other : Char} (isDigit : digit.isDigit = true)
    (notDigit : other.isDigit = false) : digit ≠ other := by
  rintro rfl
  simp [isDigit] at notDigit

theorem not_isBlank_of_digit {digit : Char} (isDigit : digit.isDigit = true) :
    isBlank digit = false := by
  simp [isBlank, ne_of_digit isDigit]

theorem scalar_of_digit {digit : Char} (isDigit : digit.isDigit = true) (later : List Char) :
    scalar (digit :: later) =
      match number false (digit :: later) with
      | some (number, rest) => (number.value, some rest)
      | none => (.broken, none) := by
  have differs {other : Char} {rest : List Char} (notDigit : other.isDigit = false) :
      digit :: later ≠ other :: rest :=
    fun same => ne_of_digit isDigit notDigit (List.cons.inj same).1
  -- The other branches are for texts that start with a quotation mark, a letter or a minus sign.
  unfold scalar
  split
  · contradiction
  · exact absurd ‹_› (differs rfl)
  · exact absurd ‹_› (differs rfl)
  · exact absurd ‹_› (differs rfl)
  · exact absurd ‹_› (differs rfl)
  · exact absurd ‹_› (differs rfl)
  · rfl

theorem toString_start (value : Int) : ∃ first later, (toString value).toList = first :: later ∧
    (first = '-' ∨ first.isDigit = true) := by
  rw [toList_toString]
  split
  · exact ⟨'-', _, rfl, Or.inl rfl⟩
  · obtain ⟨first, later, digits⟩ :=
      List.exists_cons_of_ne_nil (@Nat.toDigits_ne_nil value.natAbs 10)
    exact ⟨first, later, digits, Or.inr (Nat.isDigit_of_mem_toDigits (by decide) (by decide)
      (digits ▸ List.mem_cons_self ..))⟩

/-- An integer of 64 bits, with or without sign, is read back. -/
theorem scalar_integer {value : Int}
    (bounded : -9223372036854775808 ≤ value ∧ value < 18446744073709551616)
    {rest : List Char} (ends : Ends rest) :
    scalar ((toString value).toList ++ rest) = (.integer value, some rest) := by
  rw [toList_toString]
  by_cases negative : value < 0
  · rw [if_pos negative, List.cons_append]
    have same : (-(value.natAbs : Int)) = value := by omega
    show (match number true (Nat.toDigits 10 value.natAbs ++ rest) with
      | some (number, rest) => (number.value, some rest)
      | none => (.broken, none)) = _
    rw [number_digits true value.natAbs ends]
    have small : value.natAbs ≤ 9223372036854775808 := by omega
    have read := @value_negative_digits value.natAbs (by omega) small
    simp only [read, same]
  · have same : (value.natAbs : Int) = value := by omega
    have small : value.natAbs < 18446744073709551616 := by omega
    have read := @value_digits value.natAbs small
    have isNumber := number_digits false value.natAbs ends
    obtain ⟨first, others, digits⟩ :=
      List.exists_cons_of_ne_nil (@Nat.toDigits_ne_nil value.natAbs 10)
    have isDigit : first.isDigit = true :=
      @Nat.isDigit_of_mem_toDigits 10 value.natAbs first (by decide) (by decide)
        (digits ▸ List.mem_cons_self ..)
    rw [if_neg negative]
    rw [digits] at isNumber read ⊢
    rw [List.cons_append] at isNumber ⊢
    rw [scalar_of_digit isDigit, isNumber]
    simp only [read, same]

end Homeplan.JsonText
