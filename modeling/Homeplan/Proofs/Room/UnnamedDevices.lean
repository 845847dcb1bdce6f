import Homeplan.Proofs.House.Acceptance
import Homeplan.Proofs.Text

namespace Homeplan

/-! Which devices of built-in types a room takes if none of them has a name of its own.

Such a device is called by the display name of its type, which is numbered from index 2 on.  No
built-in display name has an underscore, so the first underscore of a name is the one before the
number, and the name tells display name and number apart.
-/

namespace Device

section Names

variable {left right : DevicePlan} {leftName rightName : String}

theorem shortName_of_le_one (unnamed : left.customName = none) (small : left.index ≤ 1)
    (displayName : String) : shortName left displayName = displayName := by
  have unnumbered : ¬ 1 < left.index := UInt32.not_lt.mpr small
  simp only [shortName, unnamed, if_neg unnumbered]

theorem shortName_of_not_le_one (unnamed : left.customName = none) (large : ¬ left.index ≤ 1)
    (displayName : String) :
    shortName left displayName = displayName ++ "_" ++ toString left.index.toNat := by
  have numbered : 1 < left.index := UInt32.not_le.mp large
  simp only [shortName, unnamed, if_pos numbered]

theorem numbered_inj (leftFree : '_' ∉ leftName.toList) {first second : Nat}
    (same : leftName ++ "_" ++ toString first = rightName ++ "_" ++ toString second) :
    leftName = rightName ∧ first = second := by
  have digitsFree : '_' ∉ (toString first).toList := by
    rw [Nat.toString_eq_ofList_toDigits, String.toList_ofList]
    exact Text.not_mem_toDigits (by decide) first
  have characters : leftName.toList ++ '_' :: (toString first).toList =
      rightName.toList ++ '_' :: (toString second).toList := by
    simpa using congrArg String.toList same
  obtain ⟨names, _, digits⟩ :=
    (List.append_cons_inj_of_notMem leftFree digitsFree).mp characters
  exact ⟨String.toList_inj.mp names, Text.eq_of_toString_eq (String.toList_inj.mp digits)⟩

theorem numbered_ne (free : '_' ∉ leftName.toList) (stem : String) (number : Nat) :
    stem ++ "_" ++ toString number ≠ leftName := by
  rintro rfl
  simp at free

/-- Without custom names, two names are equal if and only if their display names are and the indexes
are, where 0 and 1 count as the same. -/
theorem shortName_eq_iff (leftUnnamed : left.customName = none)
    (rightUnnamed : right.customName = none) (leftFree : '_' ∉ leftName.toList)
    (rightFree : '_' ∉ rightName.toList) :
    shortName left leftName = shortName right rightName ↔
      leftName = rightName ∧ (left.index = right.index ∨ left.index ≤ 1 ∧ right.index ≤ 1) := by
  by_cases leftSmall : left.index ≤ 1 <;> by_cases rightSmall : right.index ≤ 1
  · rw [shortName_of_le_one leftUnnamed leftSmall, shortName_of_le_one rightUnnamed rightSmall]
    simp [leftSmall, rightSmall]
  · rw [shortName_of_le_one leftUnnamed leftSmall, shortName_of_not_le_one rightUnnamed rightSmall]
    have apart : left.index ≠ right.index := fun same => rightSmall (by rwa [← same])
    exact iff_of_false (numbered_ne leftFree _ _).symm (by simp [apart, rightSmall])
  · rw [shortName_of_not_le_one leftUnnamed leftSmall, shortName_of_le_one rightUnnamed rightSmall]
    have apart : left.index ≠ right.index := fun same => leftSmall (by rwa [same])
    exact iff_of_false (numbered_ne rightFree _ _) (by simp [apart, leftSmall])
  · rw [shortName_of_not_le_one leftUnnamed leftSmall,
      shortName_of_not_le_one rightUnnamed rightSmall]
    simp only [leftSmall, false_and, or_false]
    constructor
    · intro same
      obtain ⟨names, numbers⟩ := numbered_inj leftFree same
      exact ⟨names, UInt32.toNat_inj.mp numbers⟩
    · rintro ⟨rfl, indexes⟩
      rw [indexes]

end Names

end Device

theorem Catalog.displayName_free {row : TypeRow} (member : row ∈ builtinRows) :
    '_' ∉ row.displayName.toList := by
  have free : ∀ row ∈ builtinRows, '_' ∉ row.displayName.toList := by decide +kernel
  exact free row member

/-- A plan of a built-in type without a custom name and without settings. -/
structure DevicePlan.Unnamed (plan : DevicePlan) : Prop where
  builtin : plan.type ∈ Catalog.builtinTypes.map (·.1)
  unnamed : plan.customName = none
  withoutSettings : plan.settings = none

/-- The types of two plans are not of the window class and have one display name, and the indexes
are equal or both at most 1. -/
def DevicePlan.ShareName (left right : DevicePlan) : Prop :=
  ∃ leftRow ∈ Catalog.builtinRows, leftRow.id = left.type ∧ leftRow.deviceClass ≠ .window ∧
    ∃ rightRow ∈ Catalog.builtinRows, rightRow.id = right.type ∧ rightRow.deviceClass ≠ .window ∧
      leftRow.displayName = rightRow.displayName ∧
      (left.index = right.index ∨ left.index ≤ 1 ∧ right.index ≤ 1)

instance (left right : DevicePlan) : Decidable (left.ShareName right) :=
  inferInstanceAs (Decidable (∃ _ ∈ _, _ ∧ _ ∧ ∃ _ ∈ _, _))

section Unnamed

variable {left right : DevicePlan}

theorem DevicePlan.Unnamed.exists_row (unnamed : left.Unnamed) :
    ∃ row ∈ Catalog.builtinRows, row.id = left.type := by
  have listed := unnamed.builtin
  rwa [← Catalog.builtinRows_ids, List.mem_map] at listed

theorem DevicePlan.Unnamed.not_shareName_iff (leftUnnamed : left.Unnamed)
    (rightUnnamed : right.Unnamed) :
    (∀ leftRow ∈ Catalog.builtinRows, ∀ rightRow ∈ Catalog.builtinRows,
      leftRow.id = left.type → rightRow.id = right.type → leftRow.deviceClass ≠ .window →
        rightRow.deviceClass ≠ .window →
          Device.shortName left leftRow.displayName ≠
            Device.shortName right rightRow.displayName) ↔
      ¬ left.ShareName right := by
  have names {leftRow rightRow : TypeRow} (leftMember : leftRow ∈ Catalog.builtinRows)
      (rightMember : rightRow ∈ Catalog.builtinRows) :=
    Device.shortName_eq_iff leftUnnamed.unnamed rightUnnamed.unnamed
      (Catalog.displayName_free leftMember) (Catalog.displayName_free rightMember)
  constructor
  · intro apart shared
    obtain ⟨leftRow, leftMember, leftSame, leftMembers, rightRow, rightMember, rightSame,
      rightMembers, same⟩ := shared
    exact apart leftRow leftMember rightRow rightMember leftSame rightSame leftMembers rightMembers
      ((names leftMember rightMember).mpr same)
  · intro apart leftRow leftMember rightRow rightMember leftSame rightSame leftMembers rightMembers
      same
    exact apart ⟨leftRow, leftMember, leftSame, leftMembers, rightRow, rightMember, rightSame,
      rightMembers, (names leftMember rightMember).mp same⟩

theorem acceptableDevices_unnamed_iff {plans : List DevicePlan}
    (unnamed : ∀ plan ∈ plans, plan.Unnamed) :
    AcceptableDevices Catalog.builtinRows plans ↔
      (plans.Pairwise fun left right => ¬ (left.type = right.type ∧ left.index = right.index)) ∧
      plans.Pairwise fun left right => ¬ left.ShareName right := by
  have pairs := List.Pairwise.iff_of_mem fun {left right} leftMember rightMember =>
    (unnamed left leftMember).not_shareName_iff (unnamed right rightMember)
  rw [← pairs]
  constructor
  · intro acceptable
    exact ⟨acceptable.indexed, acceptable.named⟩
  · intro apart
    exact {
      known := fun plan member => (unnamed plan member).exists_row
      frames := fun plan member _ _ _ _ => (unnamed plan member).withoutSettings
      indexed := apart.1
      named := apart.2 }

end Unnamed

/-- A new room takes plans of built-in types without custom names and settings if and only if no two
of them have one type and index, and no two of them that have members have one display name and
indexes that do not number it differently. -/
theorem Room.takes_unnamed_iff {roomPlan : RoomPlan} {fresh : Room} {plans : List DevicePlan}
    (accepted : Room.ofPlan roomPlan = .ok fresh) (unnamed : ∀ plan ∈ plans, plan.Unnamed) :
    (∃ room, fresh.withDevices .builtin plans = .ok room) ↔
      (plans.Pairwise fun left right => ¬ (left.type = right.type ∧ left.index = right.index)) ∧
      plans.Pairwise fun left right => ¬ left.ShareName right := by
  obtain ⟨_, vacant⟩ := Room.ofPlan_eq_ok_iff.mp accepted
  have none : ∀ other ∈ fresh.devices, False := by simp [vacant, Room.vacant]
  rw [← acceptableDevices_unnamed_iff unnamed]
  simp only [(Room.Consistent.ofPlan accepted).withDevices_eq_ok_iff]
  constructor
  · intro taken
    obtain ⟨_, devices, compiles, _, compatible, _⟩ := taken
    exact Catalog.builtin_lists.acceptableDevices_iff.mpr ⟨devices, compiles, compatible⟩
  · intro acceptable
    obtain ⟨devices, compiles, compatible⟩ :=
      Catalog.builtin_lists.acceptableDevices_iff.mp acceptable
    exact ⟨_, devices, compiles, fun other member => (none other member).elim, compatible, rfl⟩

/-- Two windows of one name are taken, as they have no members, and so are handles and sensors whose
indexes number their names differently.  One more handle with index 1 would be called like the
handle with index 0. -/
theorem Room.takes_windows_and_numbered_handle :
    let roomPlan : RoomPlan := { shortName := "Flur", longName := "Flur", floor := 0 }
    let plans : List DevicePlan :=
      [{ type := "Window", index := 0, windowId := some 1 }, { type := "Window", index := 1 },
        { type := "HmIpGriff", index := 0, windowId := some 1 },
        { type := "HmIpGriff", index := 4294967295 }, { type := "HmIpBewegung", index := 2 },
        { type := "ZigbeeAquaraMotion", index := 1 }]
    let more : List DevicePlan := plans ++ [{ type := "HmIpGriff", index := 1 }]
    (∀ plan ∈ more, plan.Unnamed) ∧ ∃ fresh, Room.ofPlan roomPlan = .ok fresh ∧
      (∃ room, fresh.withDevices .builtin plans = .ok room) ∧
      ¬ ∃ room, fresh.withDevices .builtin more = .ok room := by
  intro roomPlan plans more
  have unnamed : ∀ plan ∈ more, plan.Unnamed := by
    have each : ∀ plan ∈ more, plan.type ∈ Catalog.builtinTypes.map (·.1) ∧
        plan.customName = none ∧ plan.settings = none := by decide +kernel
    exact fun plan member =>
      ⟨(each plan member).1, (each plan member).2.1, (each plan member).2.2⟩
  have accepted : Room.ofPlan roomPlan = .ok (Room.vacant roomPlan) := by decide +kernel
  refine ⟨unnamed, _, accepted, ?_, ?_⟩
  · refine (Room.takes_unnamed_iff accepted fun plan member =>
      unnamed plan (List.mem_append_left _ member)).mpr ?_
    decide +kernel
  · refine fun taken => absurd ((Room.takes_unnamed_iff accepted unnamed).mp taken).2 ?_
    decide +kernel

end Homeplan
