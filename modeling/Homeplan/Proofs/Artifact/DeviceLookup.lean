import Homeplan.Proofs.Artifact.Members
import Homeplan.Proofs.TypeScript.Resolution

namespace Homeplan.Room

/-! Which device the class of a room has under a name.

A device is behind its name as long as no other member of the class takes this name or, for a
bus-addressed device, the name of its slot.  Devices alone do not take names from each other, but
their slots and mutators and the fixed members can.
-/

open TypeScript

/-- The device whose field stands for the object that the class has under a name. -/
def reached? (room : Room) (decl : ClassDecl) (name : String) : Option Device :=
  (decl.objectField? name).bind fun field =>
    room.devices.find? fun device => (room.deviceField? device).map (·.name) = some field.name

/-- No other member of the class has the name of a device, or the name of its slot. -/
structure NameKept (room : Room) (device : Device) : Prop where
  fixed : device.name ∉ fixedMembers
  slots : device.name ∉ room.busDevices.map (·.identifier)
  mutators : device.name ∉ room.busDevices.map (·.mutator)
  ownSlot : device.isBusAddressed = true → device.identifier ∉ room.memberDevices.map (·.name)

variable {room : Room} {groups : RoomGroups} {device : Device}

theorem nameKept_iff : room.NameKept device ↔
    (device.name ∉ fixedMembers ∧ device.name ∉ room.busDevices.map (·.identifier) ∧
      device.name ∉ room.busDevices.map (·.mutator)) ∧
    (device.isBusAddressed = true → device.identifier ∉ room.memberDevices.map (·.name)) :=
  ⟨fun kept => ⟨⟨kept.fixed, kept.slots, kept.mutators⟩, kept.ownSlot⟩,
    fun ⟨⟨fixed, slots, mutators⟩, ownSlot⟩ => ⟨fixed, slots, mutators, ownSlot⟩⟩

instance (room : Room) (device : Device) : Decidable (room.NameKept device) :=
  decidable_of_iff _ nameKept_iff.symm

/-- The names of a room are apart if and only if every device with members keeps its name. -/
theorem namesApart_iff_kept :
    room.NamesApart ↔ ∀ device ∈ room.memberDevices, room.NameKept device := by
  constructor
  · intro apart device member
    refine ⟨apart.fixed device member, apart.slots device member, apart.mutators device member, ?_⟩
    intro bus taken
    obtain ⟨other, otherMember, same⟩ := List.mem_map.mp taken
    have inBus : device ∈ room.busDevices :=
      List.mem_filter.mpr ⟨(List.mem_filter.mp member).1, bus⟩
    exact apart.slots other otherMember (same ▸ List.mem_map_of_mem inBus)
  · intro kept
    exact ⟨fun device member => (kept device member).fixed,
      fun device member => (kept device member).slots,
      fun device member => (kept device member).mutators⟩

/-! ## How often a name is declared -/

theorem Consistent.count_name_eq_one_iff (consistent : room.Consistent)
    (member : device ∈ room.memberDevices) :
    (room.classDecl groups).memberNames.count device.name = 1 ↔
      device.name ∉ fixedMembers ∧ device.name ∉ room.busDevices.map (·.identifier) ∧
        device.name ∉ room.busDevices.map (·.mutator) := by
  have once : (room.memberDevices.map (·.name)).count device.name = 1 :=
    List.count_eq_one_of_mem consistent.names_nodup (List.mem_map_of_mem member)
  rw [(memberNames_perm room groups).count_eq]
  simp only [List.count_append, once, ← List.count_eq_zero]
  omega

theorem Consistent.count_identifier_eq_one_iff (consistent : room.Consistent) (groups : RoomGroups)
    (member : device ∈ room.busDevices) :
    (room.classDecl groups).memberNames.count device.identifier = 1 ↔
      device.identifier ∉ room.memberDevices.map (·.name) := by
  have once : (room.busDevices.map (·.identifier)).count device.identifier = 1 :=
    List.count_eq_one_of_mem consistent.slots_nodup (List.mem_map_of_mem member)
  have fixed : fixedMembers.count device.identifier = 0 :=
    List.count_eq_zero.mpr (identifier_not_mem_fixedMembers device)
  have mutators : (room.busDevices.map (·.mutator)).count device.identifier = 0 := by
    rw [List.count_eq_zero, List.mem_map]
    rintro ⟨other, _, same⟩
    exact Device.identifier_ne_mutator device other same.symm
  rw [(memberNames_perm room groups).count_eq]
  simp only [List.count_append, once, fixed, mutators, ← List.count_eq_zero]
  omega

theorem Consistent.nameKept_iff_count (consistent : room.Consistent)
    (member : device ∈ room.memberDevices) : room.NameKept device ↔
      (room.classDecl groups).memberNames.count device.name = 1 ∧
      (device.isBusAddressed = true →
        (room.classDecl groups).memberNames.count device.identifier = 1) := by
  have slot (bus : device.isBusAddressed = true) :=
    consistent.count_identifier_eq_one_iff groups
      (List.mem_filter.mpr ⟨(List.mem_filter.mp member).1, bus⟩)
  rw [nameKept_iff, consistent.count_name_eq_one_iff member]
  exact and_congr_right fun _ => forall_congr' fun bus => (slot bus).symm

/-! ## Fields of devices -/

theorem deviceField?_of_singleton (room : Room) (singleton : device.isSingleton = true) :
    ∃ field, room.deviceField? device = some field ∧ field.name = device.name ∧
      field.init.any Expr.isConstruct = true := by
  simp [deviceField?, publicField, singleton, Expr.isConstruct]

theorem deviceField?_of_bus (room : Room) (bus : device.isBusAddressed = true) :
    ∃ field, room.deviceField? device = some field ∧ field.name = device.identifier ∧
      field.init.any Expr.isString = true := by
  have notSingleton := (device.isBusAddressed_iff.mp bus).2
  simp [deviceField?, notSingleton, bus, Expr.isString]

theorem exists_deviceField (room : Room) (members : device.hasMembers = true) :
    ∃ field, room.deviceField? device = some field := by
  cases singleton : device.isSingleton with
  | true =>
      obtain ⟨field, own, _⟩ := deviceField?_of_singleton room singleton
      exact ⟨field, own⟩
  | false =>
      obtain ⟨field, own, _⟩ := deviceField?_of_bus room
        (device.isBusAddressed_iff.mpr ⟨members, singleton⟩)
      exact ⟨field, own⟩

theorem deviceField_declared {field : Field} (groups : RoomGroups) (inRoom : device ∈ room.devices)
    (own : room.deviceField? device = some field) : field ∈ (room.classDecl groups).fields :=
  List.mem_append_right _ (List.mem_filterMap.mpr ⟨device, inRoom, own⟩)

theorem deviceField?_name_eq_iff {name : String} :
    (room.deviceField? device).map (·.name) = some name ↔
      (device.isSingleton = true ∧ device.name = name) ∨
      (device.isBusAddressed = true ∧ device.identifier = name) := by
  cases singleton : device.isSingleton with
  | true =>
      have notBus : ¬ device.isBusAddressed = true := by simp [device.isBusAddressed_iff, singleton]
      simp [deviceField?, publicField, singleton, notBus]
  | false => cases bus : device.isBusAddressed <;> simp [deviceField?, singleton, bus]

/-- No other device has a field of the name that the field of a device has which keeps its name. -/
theorem Consistent.eq_of_deviceField?_name (consistent : room.Consistent) {other : Device}
    (member : device ∈ room.memberDevices) (kept : room.NameKept device)
    (otherInRoom : other ∈ room.devices) {name : String}
    (own : (room.deviceField? device).map (·.name) = some name)
    (same : (room.deviceField? other).map (·.name) = some name) : other = device := by
  obtain ⟨inRoom, members⟩ := List.mem_filter.mp member
  have byName (otherMembers : other.hasMembers = true) (named : other.name = device.name) :
      other = device :=
    consistent.device_eq_of_name otherInRoom otherMembers inRoom members named
  have ofSingleton (singleton : other.isSingleton = true) : other.hasMembers = true := by
    simp [Device.hasMembers, singleton]
  -- Fields of one kind tell the names of their devices; for fields of two kinds, the name of the
  -- singleton is the slot of the bus-addressed device.
  rcases deviceField?_name_eq_iff.mp own with ⟨_, rfl⟩ | ⟨bus, rfl⟩ <;>
    rcases deviceField?_name_eq_iff.mp same with ⟨otherSingleton, named⟩ | ⟨otherBus, named⟩
  · exact byName (ofSingleton otherSingleton) named
  · have inBus : other ∈ room.busDevices := List.mem_filter.mpr ⟨otherInRoom, otherBus⟩
    exact absurd (named ▸ List.mem_map_of_mem inBus) kept.slots
  · have otherMember : other ∈ room.memberDevices :=
      List.mem_filter.mpr ⟨otherInRoom, ofSingleton otherSingleton⟩
    exact absurd (named ▸ List.mem_map_of_mem otherMember) (kept.ownSlot bus)
  · exact byName (Device.hasMembers_of_isBusAddressed otherBus) (Device.identifier_eq_iff.mp named)

theorem Consistent.find?_deviceField (consistent : room.Consistent)
    (member : device ∈ room.memberDevices) (kept : room.NameKept device) {field : Field}
    (own : room.deviceField? device = some field) :
    (room.devices.find? fun other =>
      (room.deviceField? other).map (·.name) = some field.name) = some device := by
  have named : (room.deviceField? device).map (·.name) = some field.name := by rw [own]; rfl
  have inRoom := (List.mem_filter.mp member).1
  cases isFound : room.devices.find? fun other =>
      (room.deviceField? other).map (·.name) = some field.name with
  | none => exact absurd (decide_eq_true named) (List.find?_eq_none.mp isFound device inRoom)
  | some found =>
      have same : (room.deviceField? found).map (·.name) = some field.name := by
        simpa using List.find?_some isFound
      rw [consistent.eq_of_deviceField?_name member kept (List.mem_of_find?_eq_some isFound)
        named same]

/-! ## Devices behind their names -/

theorem Consistent.objectField?_of_singleton (consistent : room.Consistent)
    (member : device ∈ room.memberDevices) (singleton : device.isSingleton = true) :
    (room.classDecl groups).objectField? device.name =
      if room.NameKept device then room.deviceField? device else none := by
  obtain ⟨field, own, named, starts⟩ := deviceField?_of_singleton room singleton
  have declared := deviceField_declared groups (List.mem_filter.mp member).1 own
  have notBus : ¬ device.isBusAddressed = true := by simp [device.isBusAddressed_iff, singleton]
  rw [own, ← named, ClassDecl.objectField?_field declared starts, named]
  apply if_congr _ rfl rfl
  rw [consistent.nameKept_iff_count member, iff_self_and]
  exact fun _ bus => absurd bus notBus

theorem Consistent.objectField?_of_bus (consistent : room.Consistent)
    (member : device ∈ room.memberDevices) (bus : device.isBusAddressed = true) :
    (room.classDecl groups).objectField? device.name =
      if room.NameKept device then room.deviceField? device else none := by
  obtain ⟨slot, own, named, starts⟩ := deviceField?_of_bus room bus
  have inRoom := (List.mem_filter.mp member).1
  have inBus : device ∈ room.busDevices := List.mem_filter.mpr ⟨inRoom, bus⟩
  have declared := deviceField_declared groups inRoom own
  have accessor : room.accessor device ∈ (room.classDecl groups).getters :=
    List.mem_map_of_mem inBus
  have reads : (room.accessor device).slot? room.className = some slot.name := by
    simp [Getter.slot?, Room.accessor, Room.own, Expr.path, named]
  have found := ClassDecl.objectField?_getter accessor reads
  rw [ClassDecl.field?_name declared starts, named, ← ite_and] at found
  rw [own]
  refine found.trans (if_congr ?_ rfl rfl)
  rw [consistent.nameKept_iff_count member]
  exact and_congr_right fun _ => (imp_iff_right bus).symm

/-- A device is behind its name if it keeps its name, and otherwise no device is. -/
theorem Consistent.reached?_name (consistent : room.Consistent)
    (member : device ∈ room.memberDevices) :
    room.reached? (room.classDecl groups) device.name =
      if room.NameKept device then some device else none := by
  have found : (room.classDecl groups).objectField? device.name =
      if room.NameKept device then room.deviceField? device else none := by
    cases singleton : device.isSingleton with
    | true => exact consistent.objectField?_of_singleton member singleton
    | false =>
        exact consistent.objectField?_of_bus member (device.isBusAddressed_iff.mpr
          ⟨(List.mem_filter.mp member).2, singleton⟩)
  rw [reached?, found]
  by_cases kept : room.NameKept device
  · obtain ⟨field, own⟩ := exists_deviceField room (List.mem_filter.mp member).2
    rw [if_pos kept, if_pos kept, own]
    exact consistent.find?_deviceField member kept own
  · rw [if_neg kept, if_neg kept]
    rfl

end Homeplan.Room
