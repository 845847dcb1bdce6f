import Homeplan.Proofs.Text
import Homeplan.Room

namespace Homeplan

/-! The names that a room accepts. -/

/-- The short name can be part of a class name and of a folder name, and the long name shows
something. -/
structure RoomPlan.WellNamed (plan : RoomPlan) : Prop where
  nonempty : plan.shortName ≠ ""
  safe : ∀ character ∈ plan.shortName.toList,
    Text.isAlphanumeric character = true ∨ character = '_'
  titled : ∃ character ∈ plan.longName.toList, Text.isWhiteSpace character = false

namespace Room

/-- The room of a plan before any device is added. -/
def vacant (plan : RoomPlan) : Room where
  shortName := plan.shortName
  longName := plan.longName
  floor := plan.floor
  settings := plan.settings
  devices := []
  byType := {}
  groups := {}
  identifiers := []
  hasManagedDevices := false

theorem isValidName_iff {name : String} :
    isValidName name = true ↔
      ∀ character ∈ name.toList, Text.isAlphanumeric character = true ∨ character = '_' := by
  simp [isValidName]

/-- A name that is not empty and has only safe characters is not blank. -/
theorem isBlank_of_isValidName {name : String} (nonempty : name ≠ "")
    (valid : isValidName name = true) : Text.isBlank name = false := by
  have safe := isValidName_iff.mp valid
  have underscore : Text.isWhiteSpace '_' = false := by decide
  cases characters : name.toList with
  | nil => exact absurd (String.toList_eq_nil_iff.mp characters) nonempty
  | cons first rest =>
      refine Text.isBlank_eq_false_iff.mpr ⟨first, by simp [characters], ?_⟩
      rcases safe first (by simp [characters]) with alphanumeric | rfl
      · cases white : Text.isWhiteSpace first with
        | false => rfl
        | true => simp [Text.not_isAlphanumeric_of_isWhiteSpace white] at alphanumeric
      · exact underscore

theorem ofPlan_eq_ok_iff {plan : RoomPlan} {room : Room} :
    Room.ofPlan plan = .ok room ↔ plan.WellNamed ∧ room = vacant plan := by
  have checks : Room.ofPlan plan = .ok room ↔
      Text.isBlank plan.shortName = false ∧ isValidName plan.shortName = true ∧
        Text.isBlank plan.longName = false ∧ room = vacant plan := by
    unfold Room.ofPlan
    cases Text.isBlank plan.shortName <;> cases isValidName plan.shortName <;>
      cases Text.isBlank plan.longName <;> simp [vacant, eq_comm]
  rw [checks]
  constructor
  · intro passed
    obtain ⟨shortShows, valid, longShows, created⟩ := passed
    refine ⟨⟨?_, isValidName_iff.mp valid, Text.isBlank_eq_false_iff.mp longShows⟩, created⟩
    intro empty
    simp [empty, Text.isBlank] at shortShows
  · intro accepted
    obtain ⟨named, created⟩ := accepted
    have valid := isValidName_iff.mpr named.safe
    exact ⟨isBlank_of_isValidName named.nonempty valid, valid,
      Text.isBlank_eq_false_iff.mpr named.titled, created⟩

theorem valid_of_ofPlan {plan : RoomPlan} {room : Room} (accepted : Room.ofPlan plan = .ok room) :
    isValidName room.shortName = true := by
  obtain ⟨named, rfl⟩ := ofPlan_eq_ok_iff.mp accepted
  exact isValidName_iff.mpr named.safe

end Room

end Homeplan
