import Homeplan.Proofs.Room.Indexes

namespace Homeplan.Room

/-! What the lookups of a consistent room return.

No position that an index holds is out of range, so nothing is dropped when the devices of a type
or of a group are collected.  The types share the devices out among them.
-/

/-- Every position that the indexes hold is the position of a device. -/
structure LookupsInRange (room : Room) : Prop where
  ofType : ∀ type slots, room.byType.get? type = some slots →
    ∀ position ∈ slots.values, position < room.devices.length
  ofGroup : ∀ tag members, room.groups.get? tag = some members →
    ∀ position ∈ members, position < room.devices.length

namespace Consistent

variable {room : Room} (consistent : room.Consistent)
include consistent

/-- A slot of a type holds the position of the device with this type and index. -/
theorem device_of_slot {type : String} {slots : SortedMap UInt32 Nat} {slot : UInt32 × Nat}
    (found : room.byType.get? type = some slots) (member : slot ∈ slots.entries) :
    ∃ device, room.devices[slot.2]? = some device ∧ device.type = type ∧
      device.index = slot.1 := by
  apply consistent.position_iff.mp
  simpa [position?, found] using slots.mem_entries_iff.mp member

theorem lookupsInRange : room.LookupsInRange where
  ofType := by
    intro type slots found position member
    obtain ⟨slot, inSlots, rfl⟩ := List.mem_map.mp member
    obtain ⟨device, located, _⟩ := consistent.device_of_slot found inSlots
    exact (List.getElem?_eq_some_iff.mp located).1
  ofGroup := by
    intro tag members found position member
    have inBucket : position ∈ (room.groups.get? tag).getD [] := by simpa [found] using member
    exact consistent.bucket_lt inBucket

/-- No two devices of a room have the same type and index. -/
theorem devices_distinct :
    room.devices.Pairwise fun left right => ¬ (left.type = right.type ∧ left.index = right.index) := by
  rw [List.pairwise_iff_getElem]
  intro first second firstBound secondBound before same
  have atFirst : room.position? room.devices[first].type room.devices[first].index = some first :=
    consistent.position_iff.mpr ⟨_, List.getElem?_eq_getElem firstBound, rfl, rfl⟩
  have atSecond : room.position? room.devices[first].type room.devices[first].index = some second :=
    consistent.position_iff.mpr
      ⟨_, List.getElem?_eq_getElem secondBound, same.1.symm, same.2.symm⟩
  rw [atFirst, Option.some.injEq] at atSecond
  omega

theorem devicesOfType_increasing (type : String) :
    (room.devicesOfType type).Pairwise fun left right => left.index < right.index := by
  unfold devicesOfType
  cases found : room.byType.get? type with
  | none => exact List.Pairwise.nil
  | some slots =>
      simp only [devicesAt, SortedMap.values, List.filterMap_map, List.pairwise_filterMap]
      refine List.Pairwise.imp_of_mem ?_ slots.sorted
      intro left right leftMember rightMember before leftDevice leftLocated rightDevice rightLocated
      obtain ⟨_, located, _, leftIndex⟩ := consistent.device_of_slot found leftMember
      obtain rfl : _ = leftDevice := Option.some.inj (located.symm.trans leftLocated)
      obtain ⟨_, located, _, rightIndex⟩ := consistent.device_of_slot found rightMember
      obtain rfl : _ = rightDevice := Option.some.inj (located.symm.trans rightLocated)
      rw [leftIndex, rightIndex]
      exact UInt32.lt_iff_toNat_lt.mpr before

end Consistent

/-- All positions that the types of a room hold, type by type. -/
def typePositions (room : Room) : List Nat :=
  room.byType.entries.flatMap fun entry => entry.2.values

namespace Consistent

variable {room : Room} (consistent : room.Consistent)
include consistent

theorem mem_typePositions_iff {position : Nat} :
    position ∈ room.typePositions ↔ position < room.devices.length := by
  simp only [typePositions, List.mem_flatMap]
  constructor
  · intro held
    obtain ⟨⟨type, slots⟩, entry, member⟩ := held
    exact consistent.lookupsInRange.ofType type slots (room.byType.mem_entries_iff.mp entry)
      position member
  · intro bound
    have located : room.position? room.devices[position].type room.devices[position].index =
        some position :=
      consistent.position_iff.mpr ⟨_, List.getElem?_eq_getElem bound, rfl, rfl⟩
    obtain ⟨slots, found, inSlots⟩ := Option.bind_eq_some_iff.mp located
    exact ⟨(_, slots), room.byType.mem_entries_iff.mpr found, slots.mem_values_iff.mpr ⟨_, inSlots⟩⟩

theorem typePositions_nodup : room.typePositions.Nodup := by
  unfold typePositions
  rw [List.nodup_flatMap]
  constructor
  · intro pair entry
    obtain ⟨type, slots⟩ := pair
    have found := room.byType.mem_entries_iff.mp entry
    refine List.pairwise_map.mpr (List.Pairwise.imp_of_mem ?_ slots.sorted)
    intro left right leftMember rightMember before same
    obtain ⟨device, located, _, leftIndex⟩ := consistent.device_of_slot found leftMember
    obtain ⟨_, sameLocated, _, rightIndex⟩ := consistent.device_of_slot found rightMember
    obtain rfl := Option.some.inj (located.symm.trans (same ▸ sameLocated))
    exact KeyOrder.irrefl right.1 (by simpa [← leftIndex, rightIndex] using before)
  · refine List.Pairwise.imp_of_mem ?_ room.byType.sorted
    intro left right leftEntry rightEntry before position leftMember rightMember
    obtain ⟨leftType, leftSlots⟩ := left
    obtain ⟨rightType, rightSlots⟩ := right
    obtain ⟨leftSlot, inLeft, rfl⟩ := List.mem_map.mp leftMember
    obtain ⟨rightSlot, inRight, same⟩ := List.mem_map.mp rightMember
    obtain ⟨device, located, leftOf, _⟩ :=
      consistent.device_of_slot (room.byType.mem_entries_iff.mp leftEntry) inLeft
    obtain ⟨_, sameLocated, rightOf, _⟩ :=
      consistent.device_of_slot (room.byType.mem_entries_iff.mp rightEntry) inRight
    obtain rfl := Option.some.inj (located.symm.trans (same ▸ sameLocated))
    exact KeyOrder.irrefl rightType (by simpa [← leftOf, rightOf] using before)

theorem typePositions_perm : room.typePositions.Perm (List.range room.devices.length) :=
  (List.perm_ext_iff_of_nodup consistent.typePositions_nodup List.nodup_range).mpr fun position => by
    rw [consistent.mem_typePositions_iff, List.mem_range]

omit consistent in
theorem devicesAt_range (room : Room) :
    room.devicesAt (List.range room.devices.length) = room.devices := by
  have located : (List.range room.devices.length).map (room.devices[·]?) = room.devices.map some := by
    apply List.ext_getElem <;> simp
  calc room.devicesAt (List.range room.devices.length)
      = ((List.range room.devices.length).map (room.devices[·]?)).filterMap id := by
        rw [List.filterMap_map]
        rfl
    _ = (room.devices.map some).filterMap id := by rw [located]
    _ = room.devices := by simp [List.filterMap_map]

omit consistent in
theorem flatMap_devicesOfType (room : Room) :
    room.deviceTypes.flatMap room.devicesOfType = room.devicesAt room.typePositions := by
  unfold deviceTypes SortedMap.keys typePositions devicesAt
  rw [List.flatMap_map, List.filterMap_flatMap]
  apply List.flatMap_congr
  intro entry member
  simp only [devicesOfType, room.byType.mem_entries_iff.mp member, devicesAt]

/-- The types share the devices of a room out among them. -/
theorem devicesOfType_perm :
    (room.deviceTypes.flatMap room.devicesOfType).Perm room.devices := by
  rw [flatMap_devicesOfType]
  have reordered := consistent.typePositions_perm.filterMap (room.devices[·]?)
  exact (devicesAt_range room) ▸ reordered

end Consistent

/-- Whatever is added to a new room, and whatever of it is refused, all indexes of the room agree
with its devices. -/
theorem indexes_agree_after_insertions {plan : RoomPlan} {fresh : Room}
    (accepted : Room.ofPlan plan = .ok fresh) (insertions : List Insertion) :
    let room := fresh.afterInsertions insertions
    room.Consistent ∧
    (room.devices.Pairwise fun left right =>
      ¬ (left.type = right.type ∧ left.index = right.index)) ∧
    room.LookupsInRange ∧
    (∀ type, (room.devicesOfType type).Pairwise fun left right => left.index < right.index) ∧
    (room.deviceTypes.flatMap room.devicesOfType).Perm room.devices := by
  intro room
  have consistent : room.Consistent := (Consistent.ofPlan accepted).afterInsertions insertions
  exact ⟨consistent, consistent.devices_distinct, consistent.lookupsInRange,
    consistent.devicesOfType_increasing, consistent.devicesOfType_perm⟩

/-- An attempt to add a motion sensor of a built-in type. -/
def motionInsertion (type : String) (entry : CatalogEntry)
    (compiled : Device.compile .builtin "Buero" { type := type, index := 0 } =
      .ok ⟨"Buero", { type := type, index := 0 }, entry⟩) : Insertion where
  catalog := .builtin
  device := ⟨"Buero", { type := type, index := 0 }, entry⟩
  compiled := ⟨_, _, _, compiled⟩

def bewegung : Insertion :=
  motionInsertion "HmIpBewegung" ⟨"HmIpBewegung", "Bewegung", .hmIp, .ofList [.motion]⟩
    (by decide +kernel)

def zweiteBewegung : Insertion :=
  motionInsertion "ZigbeeAquaraMotion" ⟨"ZigbeeAquaraMotion", "Bewegung", .zigbee, .ofList [.motion]⟩
    (by decide +kernel)

/-- The second sensor has the display name of the first one, so it is refused. -/
theorem indexes_agree_after_refusal :
    ∃ fresh, Room.ofPlan { shortName := "Buero", longName := "Arbeitszimmer", floor := 1 } =
        .ok fresh ∧
      (fresh.attempt bewegung).attempt zweiteBewegung = fresh.attempt bewegung ∧
      (fresh.afterInsertions [bewegung, zweiteBewegung]).Consistent := by
  have accepted : Room.ofPlan { shortName := "Buero", longName := "Arbeitszimmer", floor := 1 } =
      .ok _ := rfl
  exact ⟨_, accepted, by decide +kernel,
    (indexes_agree_after_insertions accepted [bewegung, zweiteBewegung]).1⟩

end Homeplan.Room
