import Homeplan.Proofs.TypeScript.Reader

namespace Homeplan.TypeScript

/-! Identifiers that are put together from parts.

Behind an identifier only the characters matter, wherever they come from, so a name that starts with
one is an identifier as soon as the rest of it holds nothing else than parts of identifiers.
-/

theorem isIdentifier_iff {name : String} : isIdentifier name = true ↔
    ∃ first rest, name.toList = first :: rest ∧ isIdentifierStart first = true ∧
      ∀ part ∈ rest, isIdentifierPart part = true := by
  unfold isIdentifier
  cases name.toList with
  | nil => simp
  | cons first rest => simp [and_assoc]

theorem isIdentifier_append_iff {start : String} (identifier : isIdentifier start = true)
    (rest : String) : isIdentifier (start ++ rest) = true ↔
      rest.toList.all isIdentifierPart = true := by
  obtain ⟨first, others, letters, starts, parts⟩ := isIdentifier_iff.mp identifier
  have appended : (start ++ rest).toList = first :: (others ++ rest.toList) := by simp [letters]
  rw [isIdentifier_iff, appended, List.all_eq_true]
  constructor
  · rintro ⟨_, _, same, _, allParts⟩ part member
    obtain ⟨rfl, rfl⟩ := List.cons.inj same
    exact allParts part (List.mem_append_right others member)
  · intro restParts
    exact ⟨first, _, rfl, starts, List.forall_mem_append.mpr ⟨parts, restParts⟩⟩

theorem isIdentifier_of_append {start rest : String} (nonempty : start ≠ "")
    (identifier : isIdentifier (start ++ rest) = true) : isIdentifier start = true := by
  have lettered : start.toList ≠ [] := fun empty => nonempty (String.toList_eq_nil_iff.mp empty)
  obtain ⟨first, others, letters⟩ := List.exists_cons_of_ne_nil lettered
  obtain ⟨_, parts, appended, starts, allParts⟩ := isIdentifier_iff.mp identifier
  rw [String.toList_append, letters, List.cons_append] at appended
  obtain ⟨rfl, rfl⟩ := List.cons.inj appended
  exact isIdentifier_iff.mpr ⟨first, others, letters, starts,
    fun part member => allParts part (List.mem_append_left _ member)⟩

theorem isIdentifierPart_of_isAlphanumeric {character : Char}
    (alphanumeric : Text.isAlphanumeric character = true) :
    isIdentifierPart character = true := by
  simp [isIdentifierPart, alphanumeric]

/-- A character that separates names is in no identifier. -/
theorem not_mem_of_isIdentifier {name : String} (identifier : isIdentifier name = true)
    {character : Char} (outside : isIdentifierPart character = false) :
    character ∉ name.toList := by
  obtain ⟨_, _, _, _, parts⟩ := Reader.parts_of_isIdentifier identifier
  intro member
  simp [parts character member] at outside

end Homeplan.TypeScript
