import Homeplan.Proofs.Artifact.Layout
import Homeplan.Proofs.TypeScript.Identifiers

namespace Homeplan.Room

/-! Every room has a folder of its own, and in it two files that lead nowhere else.

Floors may be negative, and short names may start with digits and hold underscores.  A folder name is
therefore read from its start: its first underscore ends the floor, and a floor is written in one
way only.
-/

open TypeScript

theorem eq_of_toString_floor {left right : Int} (same : toString left = toString right) :
    left = right := by
  have digits {first second : Nat} (same : first.repr = second.repr) : first = second :=
    Text.eq_of_toString_eq same
  -- No digit is a minus sign, so the two floors are on the same side of the ground.
  have unsigned (first second : Nat) : first.repr ≠ "-" ++ second.repr := by
    intro signed
    have member : '-' ∈ first.repr.toList := by simp [signed]
    rw [Nat.toList_repr] at member
    have digit := Nat.isDigit_of_mem_toDigits (by decide) (by decide) member
    contradiction
  rw [Int.toString_eq_repr, Int.toString_eq_repr, Int.repr_eq_if, Int.repr_eq_if] at same
  split at same <;> split at same
  · have magnitudes := digits same
    omega
  · exact absurd same (unsigned _ _)
  · exact absurd same.symm (unsigned _ _)
  · have magnitudes := digits ((String.append_right_inj "-").mp same)
    omega

/-- Two rooms share a folder only if they have the same floor and the same short name. -/
theorem slug_eq_iff {left right : Room} :
    left.slug = right.slug ↔ left.floor = right.floor ∧ left.shortName = right.shortName := by
  constructor
  · intro same
    obtain ⟨floors, names⟩ := slug_inj same
    exact ⟨Int32.toInt_inj.mp (eq_of_toString_floor floors), names⟩
  · rintro ⟨floors, names⟩
    rw [slug, slug, floors, names]

/-! ## Names that are safe -/

/-- A file or folder name with no two dots in a row. -/
structure IsSafe (name : String) : Prop where
  isName : Path.IsName name
  notAbove : ¬ "..".toList <:+: name.toList

theorem notAbove_of_count {name : String} (dots : name.toList.count '.' ≤ 1) :
    ¬ "..".toList <:+: name.toList := by
  intro within
  have two := within.sublist.count_le '.'
  have both : "..".toList.count '.' = 2 := by decide
  omega

/-- The file of an identifier. -/
theorem isSafe_file {name : String} (identifier : isIdentifier name = true) :
    IsSafe (name ++ ".ts") := by
  have noDot := not_mem_of_isIdentifier identifier (@Reader.notPart_of_isSeparator '.' rfl)
  have noSlash : '/' ∉ name.toList := not_mem_of_isIdentifier identifier (by decide +kernel)
  refine ⟨.of_mem 't' (by decide) (by simp) (by simpa using noSlash), notAbove_of_count ?_⟩
  simp [List.count_eq_zero.mpr noDot]

section Valid

variable {room : Room} (valid : isValidName room.shortName = true)
include valid

theorem isIdentifier_className : isIdentifier room.className = true := by
  have start : isIdentifier "Room" = true := by decide
  refine (isIdentifier_append_iff start _).mpr (List.all_eq_true.mpr fun part member => ?_)
  rcases isValidName_iff.mp valid part member with alphanumeric | underscore
  · exact isIdentifierPart_of_isAlphanumeric alphanumeric
  · simp [isIdentifierPart, underscore]

theorem isIdentifier_customizationClass : isIdentifier room.customizationClass = true :=
  (isIdentifier_append_iff (isIdentifier_className valid) _).mpr (by decide)

theorem slug_letters : ∀ character ∈ room.slug.toList,
    Text.isAlphanumeric character = true ∨ character = '_' ∨ character = '-' := by
  rw [slug_characters]
  intro character member
  rcases List.mem_append.mp member with inFloor | later
  · rcases floor_characters inFloor with digit | sign
    · exact Or.inl (Text.isAlphanumeric_of_isDigit digit)
    · exact Or.inr (Or.inr sign)
  · rcases List.mem_cons.mp later with underscore | inName
    · exact Or.inr (Or.inl underscore)
    · exact (isValidName_iff.mp valid character inName).imp_right Or.inl

theorem isSafe_slug : IsSafe room.slug := by
  have noDot : '.' ∉ room.slug.toList :=
    not_mem_slug valid Text.not_isAlphanumeric_dot (by decide) (by decide) (by decide)
  exact ⟨slug_isName valid, notAbove_of_count (by simp [List.count_eq_zero.mpr noDot])⟩

end Valid

/-- The files of the room are right in its folder, and all three have safe names. -/
structure SafelyPlaced (room : Room) : Prop where
  modulePath : room.modulePath.components = [.name room.slug, .name (room.className ++ ".ts")]
  stubPath : room.stubPath.components = [.name room.slug, .name (room.customizationClass ++ ".ts")]
  folder : IsSafe room.slug
  folder_letters : ∀ character ∈ room.slug.toList,
    Text.isAlphanumeric character = true ∨ character = '_' ∨ character = '-'
  moduleFile : IsSafe (room.className ++ ".ts")
  stubFile : IsSafe (room.customizationClass ++ ".ts")
  className : isIdentifier room.className = true
  customizationClass : isIdentifier room.customizationClass = true

theorem safelyPlaced {room : Room} (valid : isValidName room.shortName = true) :
    room.SafelyPlaced where
  modulePath := modulePath_components valid
  stubPath := stubPath_components valid
  folder := isSafe_slug valid
  folder_letters := slug_letters valid
  moduleFile := isSafe_file (isIdentifier_className valid)
  stubFile := isSafe_file (isIdentifier_customizationClass valid)
  className := isIdentifier_className valid
  customizationClass := isIdentifier_customizationClass valid

/-- Rooms are placed safely, and rooms that differ in floor or short name have different folders, so
that none of their files has the place of another one. -/
theorem places_safe_and_apart {plan : RoomPlan} {room : Room}
    (accepted : Room.ofPlan plan = .ok room) :
    room.SafelyPlaced ∧ ∀ otherPlan other, Room.ofPlan otherPlan = .ok other →
      (plan.floor, plan.shortName) ≠ (otherPlan.floor, otherPlan.shortName) →
      room.slug ≠ other.slug ∧ (room.places ++ other.places).Nodup := by
  have valid := valid_of_ofPlan accepted
  refine ⟨safelyPlaced valid, fun otherPlan other otherAccepted different => ?_⟩
  have otherValid := valid_of_ofPlan otherAccepted
  obtain ⟨_, rfl⟩ := ofPlan_eq_ok_iff.mp accepted
  obtain ⟨_, rfl⟩ := ofPlan_eq_ok_iff.mp otherAccepted
  have folders : (vacant plan).slug ≠ (vacant otherPlan).slug := by
    intro same
    obtain ⟨floors, names⟩ := slug_eq_iff.mp same
    exact different (Prod.ext floors names)
  refine ⟨folders, List.nodup_append.mpr ⟨places_nodup valid, places_nodup otherValid, ?_⟩⟩
  intro place ofRoom otherPlace ofOther same
  obtain ⟨_, rfl⟩ := folder_of_mem_places valid ofRoom
  obtain ⟨_, rfl⟩ := folder_of_mem_places otherValid ofOther
  simp only [List.cons.injEq, Path.Component.name.injEq] at same
  exact folders same.1

/-- Below ground, a short name that looks like a folder and a stub of the other room. -/
theorem places_apart_below_ground :
    let bad : RoomPlan := { shortName := "Bad", longName := "Bad", floor := -1 }
    let sibling : RoomPlan := { bad with shortName := "1_BadCustomization" }
    (vacant bad).SafelyPlaced ∧ (vacant bad).slug ≠ (vacant sibling).slug ∧
      ((vacant bad).places ++ (vacant sibling).places).Nodup := by
  intro bad sibling
  have accepted : Room.ofPlan bad = .ok (vacant bad) := by decide +kernel
  have siblingAccepted : Room.ofPlan sibling = .ok (vacant sibling) := by decide +kernel
  obtain ⟨placed, apart⟩ := places_safe_and_apart accepted
  exact ⟨placed, apart sibling (vacant sibling) siblingAccepted (by decide)⟩

end Homeplan.Room
