import Homeplan.Proofs.Document.JsonScalars
import Homeplan.Proofs.Text

namespace Homeplan

/-! Texts that stay on one line.

A compact JSON text is one of them whatever strings and numbers it holds, as every control character
is escaped.
-/

namespace Text

def Unbroken (text : String) : Prop := '\n' ∉ text.toList

instance (text : String) : Decidable (Unbroken text) := inferInstanceAs (Decidable (¬ _))

@[simp] theorem unbroken_append {left right : String} :
    Unbroken (left ++ right) ↔ Unbroken left ∧ Unbroken right := by
  simp [Unbroken]

end Text

/-! ## Control characters -/

section

variable {character : Char} (control : character.toNat < 32)

include control

theorem Text.ne_of_control {letter : Char} (printed : 32 ≤ letter.toNat) : character ≠ letter := by
  rintro rfl
  omega

open Text

/-- Digits, signs and the like are no control characters. -/
theorem Text.not_mem_of_control {letters : List Char}
    (printed : letters.all (32 ≤ ·.toNat) = true) : character ∉ letters := by
  intro member
  exact ne_of_control control (by simpa using List.all_eq_true.mp printed character member) rfl

theorem Text.not_mem_toDigits_of_control (value : Nat) : character ∉ Nat.toDigits 10 value := by
  apply not_mem_toDigits
  have small : ¬ 48 ≤ character.val := by
    rw [UInt32.le_iff_toNat_le]
    exact Nat.not_le.mpr (Nat.lt_of_lt_of_le control (by decide))
  simp [Char.isDigit, small]

theorem Text.not_mem_toString_of_control (value : Int) : character ∉ (toString value).toList := by
  have digits := not_mem_toDigits_of_control control value.natAbs
  rw [JsonText.toList_toString]
  split
  · exact List.not_mem_cons_of_ne_of_not_mem (ne_of_control control (by decide)) digits
  · exact digits

namespace Binary64

variable {digits : List Char}

theorem not_mem_positional (absent : character ∉ digits) (whole : Int) :
    character ∉ positional digits whole := by
  have zero : character ≠ '0' := ne_of_control control (by decide)
  have point : character ≠ '.' := ne_of_control control (by decide)
  unfold positional
  split
  · simp [zero, point, absent]
  · rename_i count _
    have padded : character ∉ digits ++ List.replicate (count - digits.length) '0' := by
      simp [zero, absent]
    simp only [List.mem_append, List.mem_cons, not_or]
    refine ⟨fun member => padded (List.mem_of_mem_take member), point, ?_⟩
    split
    · simpa using zero
    · exact fun member => padded (List.mem_of_mem_drop member)
  · simp [zero, point, absent]

theorem not_mem_exponential (absent : character ∉ digits) (exponent : Int) :
    character ∉ exponential digits exponent := by
  have point : character ≠ '.' := ne_of_control control (by decide)
  have sign : character ≠ if exponent < 0 then '-' else '+' := by
    split <;> exact ne_of_control control (by decide)
  have power := not_mem_toDigits_of_control control exponent.natAbs
  unfold exponential
  simp only [List.mem_append, List.mem_cons, not_or]
  refine ⟨?_, ne_of_control control (by decide), sign, power⟩
  split
  · simpa [point] using absent
  · exact absent

theorem not_mem_text (number : Binary64) : character ∉ number.text.toList := by
  have significant : character ∉ ((Nat.toDigits 10 number.shortest.digits).reverse.dropWhile
      (· = '0')).reverse := by
    intro member
    have inDigits := (List.dropWhile_sublist _).subset (List.mem_reverse.mp member)
    exact not_mem_toDigits_of_control control _ (List.mem_reverse.mp inDigits)
  have magnitude : character ∉ (if number.isZero then ['0', '.', '0']
      else
        let digits := Nat.toDigits 10 number.shortest.digits
        let significant := (digits.reverse.dropWhile (· = '0')).reverse
        let whole : Int := number.shortest.exponent + digits.length
        if -4 ≤ whole && whole ≤ 16 then positional significant whole
        else exponential significant (whole - 1)) := by
    dsimp only
    split_ifs
    · exact not_mem_of_control control (by decide)
    · exact not_mem_positional control significant _
    · exact not_mem_exponential control significant _
  rw [text, String.toList_ofList]
  split
  · exact List.not_mem_cons_of_ne_of_not_mem (ne_of_control control (by decide)) magnitude
  · exact magnitude

end Binary64

namespace Json

theorem not_mem_escaped (letter : Char) : character ∉ escaped letter := by
  have digits : ∀ value < 16, 32 ≤ (Nat.digitChar value).toNat := by decide
  have pair {second : Char} (printed : 32 ≤ second.toNat) : character ∉ ['\\', second] :=
    not_mem_of_control control (by simpa using printed)
  unfold escaped
  split_ifs with quote backslash backspace tab newline formFeed carriageReturn low
  · exact pair (by decide)
  · exact pair (by decide)
  · exact pair (by decide)
  · exact pair (by decide)
  · exact pair (by decide)
  · exact pair (by decide)
  · exact pair (by decide)
  · have upper := digits (letter.toNat / 16) (by omega)
    have lower := digits (letter.toNat % 16) (by omega)
    exact not_mem_of_control control (by simp [upper, lower])
  · exact not_mem_of_control control (by simpa using low)

theorem not_mem_stringText (value : String) : character ∉ (stringText value).toList := by
  have quotation : character ≠ '"' := ne_of_control control (by decide)
  simp [stringText, quotation, not_mem_escaped control]

mutual

theorem not_mem_compact : ∀ json : Json, character ∉ json.compact.toList
  | .null => not_mem_of_control control (by decide)
  | .bool true => not_mem_of_control control (by decide)
  | .bool false => not_mem_of_control control (by decide)
  | .integer value => not_mem_toString_of_control control value
  | .real value => value.not_mem_text control
  | .text value => not_mem_stringText control value
  | .array items => by
      have opening : character ≠ '[' := ne_of_control control (by decide)
      have closing : character ≠ ']' := ne_of_control control (by decide)
      simp [compact, opening, closing, not_mem_compactItems items]
  | .object members => by
      have opening : character ≠ '\x7b' := ne_of_control control (by decide)
      have closing : character ≠ '\x7d' := ne_of_control control (by decide)
      simp [compact, opening, closing, not_mem_compactMembers members]

theorem not_mem_compactItems : ∀ items : List Json, character ∉ (compactItems items).toList
  | [] => not_mem_of_control control (by decide)
  | [item] => not_mem_compact item
  | item :: next :: rest => by
      have comma : character ≠ ',' := ne_of_control control (by decide)
      simp [compactItems, comma, not_mem_compact item, not_mem_compactItems (next :: rest)]

theorem not_mem_compactMembers :
    ∀ members : List (String × Json), character ∉ (compactMembers members).toList
  | [] => not_mem_of_control control (by decide)
  | [(name, value)] => by
      have colon : character ≠ ':' := ne_of_control control (by decide)
      simp [compactMembers, colon, not_mem_stringText control, not_mem_compact value]
  | (name, value) :: next :: rest => by
      have colon : character ≠ ':' := ne_of_control control (by decide)
      have comma : character ≠ ',' := ne_of_control control (by decide)
      simp [compactMembers, colon, comma, not_mem_stringText control, not_mem_compact value,
        not_mem_compactMembers (next :: rest)]

end

end Json

end

end Homeplan
