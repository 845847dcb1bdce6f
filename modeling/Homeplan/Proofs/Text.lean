import Homeplan.Text.Blank
import Homeplan.Text.Numeric

namespace Homeplan.Text

/-! The character classes that names are checked against, and numbers in names. -/

def CodePoints.points (ranges : CodePoints) : List Nat :=
  ranges.flatMap fun range => List.range' range.1 (range.2 + 1 - range.1)

theorem CodePoints.mem_points_of_contains {ranges : CodePoints} {point : Nat}
    (contained : ranges.contains point = true) : point ∈ ranges.points := by
  induction ranges with
  | nil => simp [contains] at contained
  | cons range rest ih =>
      obtain ⟨first, last⟩ := range
      rw [contains] at contained
      rw [points, List.flatMap_cons, List.mem_append]
      split at contained
      · contradiction
      · split at contained
        · refine Or.inl (List.mem_range'_1.mpr ?_)
          dsimp only
          omega
        · exact Or.inr (ih contained)

theorem not_isAlphanumeric_of_isWhiteSpace {character : Char}
    (white : isWhiteSpace character = true) : isAlphanumeric character = false := by
  have blanks : ∀ point ∈ whiteSpaceRanges.points, isAlphanumeric (Char.ofNat point) = false := by
    decide +kernel
  simpa using blanks character.toNat (CodePoints.mem_points_of_contains white)

theorem not_isAlphanumeric_slash : isAlphanumeric '/' = false := by
  decide +kernel

theorem not_isAlphanumeric_dot : isAlphanumeric '.' = false := by
  decide +kernel

theorem isAlphanumeric_of_isDigit {digit : Char} (isDigit : digit.isDigit = true) :
    isAlphanumeric digit = true := by
  have small : digit.toNat < 128 := by
    simp only [Char.isDigit, Bool.and_eq_true, decide_eq_true_eq, UInt32.le_iff_toNat_le] at isDigit
    exact Nat.lt_of_le_of_lt isDigit.2 (by decide)
  simp [isAlphanumeric, isNumeric, small, isDigit]

theorem isBlank_eq_false_iff {text : String} :
    isBlank text = false ↔ ∃ character ∈ text.toList, isWhiteSpace character = false := by
  simp [isBlank]

theorem eq_of_toString_eq {left right : Nat} (same : toString left = toString right) :
    left = right := by
  rw [Nat.toString_eq_ofList_toDigits, Nat.toString_eq_ofList_toDigits] at same
  have digits := congrArg (Nat.ofDigitChars 10 · 0) (String.ofList_injective same)
  simpa only [Nat.ofDigitChars_ten_toDigits] using digits

theorem not_mem_toDigits {character : Char} (notDigit : character.isDigit = false) (value : Nat) :
    character ∉ Nat.toDigits 10 value := by
  intro member
  have digit := Nat.isDigit_of_mem_toDigits (by decide) (by decide) member
  simp [notDigit] at digit

end Homeplan.Text
