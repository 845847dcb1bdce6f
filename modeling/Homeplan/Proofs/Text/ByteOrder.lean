import Homeplan.SortedMap
import Mathlib.Tactic.SplitIfs

namespace Homeplan.Text

/-! The order of texts by code points is the order by the bytes of their UTF-8 forms.

Of two code points the smaller one has the smaller first byte, or the same first byte and then a
smaller one before the end of its form; so what follows them is never compared.
-/

def bytes (text : String) : List UInt8 := text.toUTF8.data.toList

theorem bytes_eq_flatMap (text : String) :
    bytes text = text.toList.flatMap String.utf8EncodeChar := by
  rw [bytes, String.toUTF8_eq_toByteArray, ← String.utf8Encode_toList, List.utf8Encode,
    List.data_toByteArray]

section Bytes

variable {before after : List UInt8} {left right : Nat}

theorem lt_of_byte_lt (less : left < right) (small : right < 256) :
    UInt8.ofNat left :: before < UInt8.ofNat right :: after := by
  apply List.Lex.rel
  rw [UInt8.lt_iff_toNat_lt, UInt8.toNat_ofNat', UInt8.toNat_ofNat']
  omega

theorem lt_of_byte_eq (same : left = right) (less : before < after) :
    UInt8.ofNat left :: before < UInt8.ofNat right :: after :=
  same ▸ List.Lex.cons less

/-- The bytes of a smaller code point come first, whatever follows them. -/
theorem utf8EncodeChar_lt {first second : Char} (less : first.toNat < second.toNat) :
    String.utf8EncodeChar first ++ before < String.utf8EncodeChar second ++ after := by
  have bound : second.val.toNat < 0x110000 := by
    have valid := second.valid
    rw [UInt32.isValidChar, Nat.isValidChar] at valid
    omega
  have less : first.val.toNat < second.val.toNat := less
  unfold String.utf8EncodeChar
  generalize first.val.toNat = point at less
  generalize second.val.toNat = larger at less bound
  dsimp only
  split_ifs
  -- A longer form starts with a larger byte, and a shorter one is not that of a larger code point.
  all_goals try omega
  all_goals try exact lt_of_byte_lt (by omega) (by omega)
  -- Forms of one length are compared byte by byte.
  · rcases Nat.lt_or_ge (point / 64) (larger / 64) with high | high
    · exact lt_of_byte_lt (by omega) (by omega)
    · exact lt_of_byte_eq (by omega) (lt_of_byte_lt (by omega) (by omega))
  · rcases Nat.lt_or_ge (point / 4096) (larger / 4096) with high | high
    · exact lt_of_byte_lt (by omega) (by omega)
    · refine lt_of_byte_eq (by omega) ?_
      rcases Nat.lt_or_ge (point / 64) (larger / 64) with middle | middle
      · exact lt_of_byte_lt (by omega) (by omega)
      · exact lt_of_byte_eq (by omega) (lt_of_byte_lt (by omega) (by omega))
  · rcases Nat.lt_or_ge (point / 262144) (larger / 262144) with highest | highest
    · exact lt_of_byte_lt (by omega) (by omega)
    · refine lt_of_byte_eq (by omega) ?_
      rcases Nat.lt_or_ge (point / 4096) (larger / 4096) with high | high
      · exact lt_of_byte_lt (by omega) (by omega)
      · refine lt_of_byte_eq (by omega) ?_
        rcases Nat.lt_or_ge (point / 64) (larger / 64) with middle | middle
        · exact lt_of_byte_lt (by omega) (by omega)
        · exact lt_of_byte_eq (by omega) (lt_of_byte_lt (by omega) (by omega))

end Bytes

theorem flatMap_lt_of_lex {left right : List Char} (before : List.Lex KeyOrder.Before left right) :
    left.flatMap String.utf8EncodeChar < right.flatMap String.utf8EncodeChar := by
  induction before with
  | nil =>
      rename_i first rest
      obtain ⟨byte, later, form⟩ := List.exists_cons_of_ne_nil
        (l := (first :: rest).flatMap String.utf8EncodeChar) (by simp)
      rw [form]
      exact List.Lex.nil
  | rel less =>
      rw [List.flatMap_cons, List.flatMap_cons]
      exact utf8EncodeChar_lt less
  | cons _ ih =>
      rw [List.flatMap_cons, List.flatMap_cons]
      exact List.append_left_lt ih

theorem bytes_lt_of_before {left right : String} (before : KeyOrder.Before left right) :
    bytes left < bytes right := by
  rw [bytes_eq_flatMap, bytes_eq_flatMap]
  exact flatMap_lt_of_lex before

end Homeplan.Text
