import Homeplan.Artifact.Generation
import Homeplan.Proofs.Path
import Homeplan.Proofs.Room.Names

namespace Homeplan.Room

/-! The folder and the files of a room.

A floor is written without underscores, so the first underscore of a folder name ends the floor.
-/

theorem floor_characters {floor : Int} {character : Char}
    (member : character ∈ (toString floor).toList) :
    character.isDigit = true ∨ character = '-' := by
  rw [Int.toString_eq_repr, Int.repr_eq_if] at member
  split at member
  · rw [Nat.toList_repr] at member
    exact Or.inl (Nat.isDigit_of_mem_toDigits (by decide) (by decide) member)
  · rw [String.toList_append, List.mem_append, Nat.toList_repr] at member
    rcases member with sign | digit
    · exact Or.inr (by simpa using sign)
    · exact Or.inl (Nat.isDigit_of_mem_toDigits (by decide) (by decide) digit)

theorem not_mem_floor {floor : Int} {character : Char} (notDigit : character.isDigit = false)
    (notSign : character ≠ '-') : character ∉ (toString floor).toList := by
  intro member
  rcases floor_characters member with digit | sign
  · simp [notDigit] at digit
  · exact notSign sign

theorem slug_characters (room : Room) :
    room.slug.toList = (toString room.floor.toInt).toList ++ '_' :: room.shortName.toList := by
  simp [slug]

theorem slug_floor (room : Room) :
    room.slug.toList.takeWhile (· ≠ '_') = (toString room.floor.toInt).toList := by
  have noUnderscore : '_' ∉ (toString room.floor.toInt).toList :=
    not_mem_floor (by decide) (by decide)
  have all : ∀ character ∈ (toString room.floor.toInt).toList, decide (character ≠ '_') = true := by
    intro character member
    exact decide_eq_true fun same => noUnderscore (same ▸ member)
  rw [slug_characters, List.takeWhile_append_of_pos all]
  simp

/-- Rooms with the same folder have the same floor and the same short name. -/
theorem slug_inj {left right : Room} (same : left.slug = right.slug) :
    toString left.floor.toInt = toString right.floor.toInt ∧ left.shortName = right.shortName := by
  have floors : (toString left.floor.toInt).toList = (toString right.floor.toInt).toList := by
    rw [← slug_floor, ← slug_floor, same]
  have characters := congrArg String.toList same
  rw [slug_characters, slug_characters, floors, List.append_cancel_left_eq, List.cons.injEq]
    at characters
  exact ⟨String.toList_inj.mp floors, String.toList_inj.mp characters.2⟩

section Valid

variable {room : Room} (valid : isValidName room.shortName = true)
include valid

theorem not_mem_shortName {character : Char}
    (notAlphanumeric : Text.isAlphanumeric character = false) (notUnderscore : character ≠ '_') :
    character ∉ room.shortName.toList := by
  intro member
  rcases isValidName_iff.mp valid character member with alphanumeric | underscore
  · simp [notAlphanumeric] at alphanumeric
  · exact notUnderscore underscore

theorem not_mem_slug {character : Char}
    (notAlphanumeric : Text.isAlphanumeric character = false) (notUnderscore : character ≠ '_')
    (notDigit : character.isDigit = false) (notSign : character ≠ '-') :
    character ∉ room.slug.toList := by
  rw [slug_characters, List.mem_append, List.mem_cons]
  rintro (inFloor | isUnderscore | inName)
  · exact not_mem_floor notDigit notSign inFloor
  · exact notUnderscore isUnderscore
  · exact not_mem_shortName valid notAlphanumeric notUnderscore inName

theorem slashFree_shortName : '/' ∉ room.shortName.toList :=
  not_mem_shortName valid Text.not_isAlphanumeric_slash (by decide)

theorem slug_isName : Path.IsName room.slug := by
  refine .of_mem '_' (by decide) ?_ ?_
  · simp [slug_characters]
  · exact not_mem_slug valid Text.not_isAlphanumeric_slash (by decide) (by decide) (by decide)

theorem moduleName_isName : Path.IsName (room.className ++ ".ts") := by
  refine .of_mem 'R' (by decide) ?_ ?_
  · simp [className]
  · simpa [className] using slashFree_shortName valid

theorem modulePath_components :
    room.modulePath.components = [.name room.slug, .name (room.className ++ ".ts")] :=
  Path.components_append_names (slug_isName valid) (moduleName_isName valid)

theorem stubPath_components :
    room.stubPath.components = [.name room.slug, .name (room.customizationClass ++ ".ts")] := by
  refine Path.components_append_names (slug_isName valid) (.of_mem 'R' (by decide) ?_ ?_)
  · simp [customizationClass, className]
  · simpa [customizationClass, className] using slashFree_shortName valid

end Valid

/-- The module of a room never has the place of the stub of a room: in one folder they differ by
the ending of their names. -/
theorem modulePath_ne_stubPath {left right : Room} (leftValid : isValidName left.shortName = true)
    (rightValid : isValidName right.shortName = true) :
    left.modulePath.components ≠ right.stubPath.components := by
  rw [modulePath_components leftValid, stubPath_components rightValid]
  intro same
  simp only [List.cons.injEq, Path.Component.name.injEq, and_true] at same
  obtain ⟨folders, files⟩ := same
  obtain ⟨_, names⟩ := slug_inj folders
  have lengths := congrArg String.length files
  simp [customizationClass, className, names] at lengths

end Homeplan.Room
