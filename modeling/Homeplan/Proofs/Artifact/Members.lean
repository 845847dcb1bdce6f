import Homeplan.Proofs.Artifact.Planning
import Homeplan.Proofs.TypeScript.Occurrences

namespace Homeplan

/-! The names of the members of a room class.

A bus-addressed device gives its class a slot, an accessor and a mutator, and a singleton one slot.
Insertion keeps the names of devices apart from each other, but not from the names that other
devices and the class itself take, so distinctness of all members is a condition on the room.
-/

namespace Device

theorem hasMembers_of_isBusAddressed {device : Device} (bus : device.isBusAddressed = true) :
    device.hasMembers = true := by
  simp [hasMembers, bus]

theorem isBusAddressed_iff (device : Device) :
    device.isBusAddressed = true ↔ device.hasMembers = true ∧ device.isSingleton = false := by
  unfold hasMembers isBusAddressed isSingleton
  cases device.deviceClass <;> decide

theorem mutator_eq_iff {left right : Device} :
    left.mutator = right.mutator ↔ left.name = right.name := by
  rw [mutator_eq, mutator_eq, String.append_right_inj]

theorem identifier_ne_mutator (left right : Device) : left.identifier ≠ right.mutator := by
  intro same
  have texts := congrArg String.toList same
  simp [identifier, mutator_eq] at texts

end Device

namespace Room

def fixedMembers : List String :=
  ["roomName", "displayName", "InitialRoomSettings", "RoomSettings", "roomObject", "initialize",
    "buildGroups"]

def memberDevices (room : Room) : List Device := room.devices.filter (·.hasMembers)

/-- No device is called like a fixed member, and none like the slot or the mutator of another. -/
structure NamesApart (room : Room) : Prop where
  fixed : ∀ device ∈ room.memberDevices, device.name ∉ fixedMembers
  slots : ∀ device ∈ room.memberDevices, device.name ∉ room.busDevices.map (·.identifier)
  mutators : ∀ device ∈ room.memberDevices, device.name ∉ room.busDevices.map (·.mutator)

variable {room : Room} {groups : RoomGroups}

theorem namesApart_iff : room.NamesApart ↔
    ∀ device ∈ room.memberDevices, device.name ∉ fixedMembers ∧
      device.name ∉ room.busDevices.map (·.identifier) ∧
      device.name ∉ room.busDevices.map (·.mutator) := by
  constructor
  · intro apart device member
    exact ⟨apart.fixed device member, apart.slots device member, apart.mutators device member⟩
  · intro apart
    exact ⟨fun device member => (apart device member).1,
      fun device member => (apart device member).2.1,
      fun device member => (apart device member).2.2⟩

instance (room : Room) : Decidable room.NamesApart := decidable_of_iff _ namesApart_iff.symm

theorem not_mem_fixedMembers {start : String}
    (unused : ∀ member ∈ fixedMembers, ¬ start.toList <+: member.toList) (rest : String) :
    start ++ rest ∉ fixedMembers := by
  intro member
  exact unused _ member (by simp)

theorem identifier_not_mem_fixedMembers (device : Device) : device.identifier ∉ fixedMembers :=
  not_mem_fixedMembers (by decide) device.name

theorem mutator_not_mem_fixedMembers (device : Device) : device.mutator ∉ fixedMembers :=
  device.mutator_eq ▸ not_mem_fixedMembers (by decide) device.name

/-- Together, the fields and the accessors of some devices are their names, and the slots of those
that are bus-addressed. -/
theorem deviceFields_perm (room : Room) (devices : List Device) :
    ((devices.filterMap room.deviceField?).map (·.name) ++
      (devices.filter (·.isBusAddressed)).map (·.name)).Perm
    ((devices.filter (·.hasMembers)).map (·.name) ++
      (devices.filter (·.isBusAddressed)).map (·.identifier)) := by
  induction devices with
  | nil => exact List.Perm.refl _
  | cons device rest ih =>
      -- The two sides list the names in different orders, so each name is counted by itself.
      rw [List.perm_iff_count] at ih ⊢
      intro name
      have later := ih name
      simp only [List.count_append] at later ⊢
      cases members : device.hasMembers with
      | false =>
          have apart : device.isSingleton = false ∧ device.isBusAddressed = false := by
            simpa [Device.hasMembers, and_comm] using members
          simpa [deviceField?, members, apart] using later
      | true =>
          cases singleton : device.isSingleton with
          | true =>
              have notBus : device.isBusAddressed = false := by
                rw [Bool.eq_false_iff, ne_eq, device.isBusAddressed_iff]
                simp [singleton]
              simp only [deviceField?, publicField, members, singleton, notBus, List.filterMap_cons,
                List.filter_cons, List.map_cons, List.count_cons, if_true, Bool.false_eq_true,
                if_false]
              omega
          | false =>
              have bus := device.isBusAddressed_iff.mpr ⟨members, singleton⟩
              simp only [deviceField?, members, singleton, bus, List.filterMap_cons,
                List.filter_cons, List.map_cons, List.count_cons, if_true, Bool.false_eq_true,
                if_false]
              omega

theorem memberNames_perm (room : Room) (groups : RoomGroups) :
    (room.classDecl groups).memberNames.Perm
      (fixedMembers ++ (room.memberDevices.map (·.name) ++ room.busDevices.map (·.identifier) ++
        room.busDevices.map (·.mutator))) := by
  have names : (room.classDecl groups).memberNames =
      fixedMembers.take 5 ++ (room.devices.filterMap room.deviceField?).map (·.name) ++
        room.busDevices.map (·.name) ++
        (room.busDevices.map (·.mutator) ++ fixedMembers.drop 5) := by
    simp [TypeScript.ClassDecl.memberNames, classDecl, fields, fixedFields, publicField, accessors,
      accessor, mutators, mutator, setupMethod, groupsMethod, fixedMembers, Function.comp_def]
  have devices := List.perm_iff_count.mp (deviceFields_perm room room.devices)
  rw [names, List.perm_iff_count]
  intro name
  have split : fixedMembers.count name =
      (fixedMembers.take 5).count name + (fixedMembers.drop 5).count name := by
    rw [← List.count_append, List.take_append_drop]
  have device := devices name
  simp only [List.count_append] at device ⊢
  simp only [split, busDevices, memberDevices]
  omega

theorem busDevices_sublist (room : Room) : room.busDevices.Sublist room.memberDevices :=
  List.monotone_filter_right _ fun _ => Device.hasMembers_of_isBusAddressed

theorem Consistent.names_nodup (consistent : room.Consistent) :
    (room.memberDevices.map (·.name)).Nodup := by
  have distinct : (room.memberDevices.map (·.identifier)).Nodup :=
    consistent.identifiers_eq ▸ consistent.identifiers_nodup
  refine List.Pairwise.map _ (fun _ _ apart => ?_) (List.pairwise_map.mp distinct)
  exact fun same => apart (Device.identifier_eq_iff.mpr same)

theorem Consistent.slots_nodup (consistent : room.Consistent) :
    (room.busDevices.map (·.identifier)).Nodup := by
  have distinct : (room.memberDevices.map (·.identifier)).Nodup :=
    consistent.identifiers_eq ▸ consistent.identifiers_nodup
  exact distinct.sublist (room.busDevices_sublist.map _)

/-- The members of a room class have distinct names if and only if the names of its devices stay
clear of the fixed members, the slots and the mutators. -/
theorem Consistent.memberNames_nodup_iff (consistent : room.Consistent) :
    (room.classDecl groups).memberNames.Nodup ↔ room.NamesApart := by
  have names := consistent.names_nodup
  have slots := consistent.slots_nodup
  have mutators : (room.busDevices.map (·.mutator)).Nodup := by
    refine List.Pairwise.map _ (fun _ _ apart => ?_)
      (List.pairwise_map.mp (names.sublist (room.busDevices_sublist.map _)))
    exact fun same => apart (Device.mutator_eq_iff.mp same)
  have fixedSlots : fixedMembers.Disjoint (room.busDevices.map (·.identifier)) := by
    intro name fixed slot
    obtain ⟨device, _, rfl⟩ := List.mem_map.mp slot
    exact identifier_not_mem_fixedMembers device fixed
  have fixedMutators : fixedMembers.Disjoint (room.busDevices.map (·.mutator)) := by
    intro name fixed mutator
    obtain ⟨device, _, rfl⟩ := List.mem_map.mp mutator
    exact mutator_not_mem_fixedMembers device fixed
  have slotsMutators :
      (room.busDevices.map (·.identifier)).Disjoint (room.busDevices.map (·.mutator)) := by
    intro name slot mutator
    obtain ⟨left, _, rfl⟩ := List.mem_map.mp slot
    obtain ⟨right, _, same⟩ := List.mem_map.mp mutator
    exact Device.identifier_ne_mutator left right same.symm
  have fixed : fixedMembers.Nodup := by decide
  -- What is left after these is how the names of devices meet the other three parts.
  rw [(memberNames_perm room groups).nodup_iff]
  simp only [List.nodup_append', List.disjoint_append_right, List.disjoint_append_left, fixed,
    names, slots, mutators, fixedSlots, fixedMutators, slotsMutators, true_and, and_true]
  have clear (taken : List String) : (room.memberDevices.map (·.name)).Disjoint taken ↔
      ∀ device ∈ room.memberDevices, device.name ∉ taken := by
    simp only [List.disjoint_left, List.forall_mem_map]
  rw [List.disjoint_comm.trans (clear fixedMembers), clear, clear]
  constructor
  · intro apart
    obtain ⟨⟨slots, mutators⟩, fixed⟩ := apart
    exact ⟨fixed, slots, mutators⟩
  · intro apart
    exact ⟨⟨apart.slots, apart.mutators⟩, apart.fixed⟩

end Room

/-- A planned house has a module for every room, and the members of the class in it have distinct
names if and only if the names of the room are apart. -/
theorem HousePlan.members_distinct_iff_apart {plan : HousePlan} {options : RenderOptions}
    {rooms : List String} {artifacts : List Artifact}
    (planned : plan.artifacts options = .ok (rooms, artifacts)) :
    ∃ house, House.compile plan = .ok house ∧ ∀ room ∈ house.rooms, ∃ groups,
      RoomGroups.ofRoom room = .ok groups ∧ room.moduleArtifact groups options ∈ artifacts ∧
      ∀ decl, .classDecl decl ∈ (room.toModule groups options).items →
        (decl.memberNames.Nodup ↔ room.NamesApart) := by
  obtain ⟨house, compiled, housePlanned⟩ := HousePlan.artifacts_eq_ok planned
  refine ⟨house, compiled, fun room member => ?_⟩
  obtain ⟨groups, assembled, modulePlanned⟩ := House.module_planned housePlanned member
  refine ⟨groups, assembled, modulePlanned, fun decl declared => ?_⟩
  obtain rfl : decl = room.classDecl groups := by
    simpa [Room.toModule] using declared
  exact (House.consistent_of_compile compiled member).memberNames_nodup_iff

/-- Custom names may look like slots as long as no bus-addressed device of the room has the slot. -/
theorem HousePlan.members_distinct_with_slot_like_name :
    let devices : List DevicePlan :=
      [{ type := "HmIpTaster", index := 0, customName := some "Tür" },
        { type := "HmIpTaster", index := 1, customName := some "idFenster" },
        { type := "OwnSonosDevice", index := 0, customName := some "idBox" },
        { type := "OwnSonosDevice", index := 1, customName := some "Box" }]
    let buero : RoomPlan := { shortName := "Buero", longName := "Büro", floor := 1, devices }
    let plan : HousePlan := { rooms := [buero] }
    ∃ house, House.compile plan = .ok house ∧ ∀ room ∈ house.rooms, ∃ groups,
      RoomGroups.ofRoom room = .ok groups ∧
      ∀ decl, .classDecl decl ∈ (room.toModule groups {}).items → decl.memberNames.Nodup := by
  intro devices buero plan
  have runs : (plan.artifacts {} >>= fun planned => House.compile plan >>= fun house =>
      .ok (planned.1, house.rooms.all fun room => decide room.NamesApart)) =
      .ok (["Buero"], true) := by
    decide +kernel
  obtain ⟨_, planned, later⟩ := bind_eq_ok.mp runs
  obtain ⟨house, compiled, checked⟩ := bind_eq_ok.mp later
  have apart : ∀ room ∈ house.rooms, room.NamesApart := by
    simpa using (Prod.mk.inj (Except.ok.inj checked)).2
  obtain ⟨_, same, members⟩ := HousePlan.members_distinct_iff_apart planned
  obtain rfl := Except.ok.inj (compiled.symm.trans same)
  refine ⟨house, compiled, fun room member => ?_⟩
  obtain ⟨groups, assembled, _, distinct⟩ := members room member
  exact ⟨groups, assembled, fun decl declared => (distinct decl declared).mpr (apart room member)⟩

/-- A custom name can be the slot of another device: the class then has two members of that name. -/
theorem HousePlan.slot_and_accessor_share_name :
    let devices : List DevicePlan :=
      [{ type := "HmIpTaster", index := 0 },
        { type := "HmIpWippe", index := 0, customName := some "idTaster" }]
    let buero : RoomPlan := { shortName := "Buero", longName := "Büro", floor := 1, devices }
    ∃ artifacts house room groups,
      HousePlan.artifacts { rooms := [buero] } {} = .ok (["Buero"], artifacts) ∧
      House.compile { rooms := [buero] } = .ok house ∧ room ∈ house.rooms ∧
      RoomGroups.ofRoom room = .ok groups ∧ ¬ (room.classDecl groups).memberNames.Nodup := by
  intro devices buero
  have runs : (HousePlan.artifacts { rooms := [buero] } {} >>= fun planned =>
      House.compile { rooms := [buero] } >>= fun house => house.rooms.mapM fun room =>
      RoomGroups.ofRoom room >>= fun groups =>
        .ok (planned.1, decide (room.classDecl groups).memberNames.Nodup)) =
      .ok [(["Buero"], false)] := by
    decide +kernel
  obtain ⟨planned, plannedOk, later⟩ := bind_eq_ok.mp runs
  obtain ⟨house, compiled, perRoom⟩ := bind_eq_ok.mp later
  obtain ⟨room, member, found⟩ :=
    exists_related_of_mem (mapM_eq_ok_iff.mp perRoom) (List.mem_singleton_self _)
  obtain ⟨groups, assembled, checked⟩ := bind_eq_ok.mp found
  obtain ⟨names, repeated⟩ := Prod.mk.inj (Except.ok.inj checked)
  exact ⟨planned.2, house, room, groups, names ▸ plannedOk, compiled, member, assembled,
    of_decide_eq_false repeated⟩

end Homeplan
