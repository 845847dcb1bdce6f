import Homeplan.Proofs.Room.Groups
import Mathlib.Data.List.Perm.Basic

namespace Homeplan

/-! The order in which the devices of a room are listed.

An insertion checks a device against the devices before it, but the checks are the same in both
directions.  So a list of plans is accepted in every order or in none, and apart from the order
inside its lists the room does not show in which order it was filled.
-/

/-! ## Groups up to order -/

/-- The devices on two windows, in any order.  What a window has only one of is the same. -/
structure WindowAssembly.Reordered (left right : WindowAssembly) : Prop where
  id : left.id = right.id
  frame : left.frame = right.frame
  blindMotor : left.blindMotor = right.blindMotor
  sunrise : left.noShutterOnSunrise = right.noShutterOnSunrise
  handles : left.handles.Perm right.handles
  vibrations : left.vibrations.Perm right.vibrations
  magnetContacts : left.magnetContacts.Perm right.magnetContacts

structure PresenceGroup.Reordered (left right : PresenceGroup) : Prop where
  motion : left.motion.Perm right.motion
  presence : left.presence.Perm right.presence

structure LightGroup.Reordered (left right : LightGroup) : Prop where
  lamps : left.lamps.Perm right.lamps
  plugs : left.plugs.Perm right.plugs
  leds : left.leds.Perm right.leds
  stripes : left.stripes.Perm right.stripes

structure HeatingGroup.Reordered (left right : HeatingGroup) : Prop where
  heaters : left.heaters.Perm right.heaters
  temperature : left.temperature.Perm right.temperature
  humidity : left.humidity.Perm right.humidity
  airConditioners : left.airConditioners.Perm right.airConditioners

structure RoomGroups.ListsReordered (left right : RoomGroups) : Prop where
  windows : List.Forall₂ WindowAssembly.Reordered left.windows right.windows
  presence : Option.Rel PresenceGroup.Reordered left.presence right.presence
  light : Option.Rel LightGroup.Reordered left.light right.light
  buttons : Option.Rel List.Perm left.buttons right.buttons
  smoke : Option.Rel List.Perm left.smoke right.smoke
  water : Option.Rel List.Perm left.water right.water
  heating : Option.Rel HeatingGroup.Reordered left.heating right.heating
  speakers : Option.Rel List.Perm left.speakers right.speakers

structure RoomGroups.Reordered (left right : RoomGroups) : Prop
    extends RoomGroups.ListsReordered left right where
  kinds : left.kinds = right.kinds
  writebacks : left.roomNameWritebacks.Perm right.roomNameWritebacks

/-- Two rooms that differ at most in the order of the devices inside lists that keep the order of
insertion. -/
structure Room.Reordered (left right : Room) : Prop where
  devices : left.devices.Perm right.devices
  deviceTypes : left.deviceTypes = right.deviceTypes
  devicesOfType : ∀ type, left.devicesOfType type = right.devicesOfType type
  groupTags : left.groupTags = right.groupTags
  managed : left.hasManagedDevices = right.hasManagedDevices
  group : ∀ tag, (left.group tag).Perm (right.group tag)
  assembled : EndsAlike RoomGroups.Reordered (RoomGroups.ofRoom left) (RoomGroups.ofRoom right)

/-! ## Assembly -/

theorem unlessEmpty_reordered {related : α → β → Prop} {lists others : List (List Device)}
    {group : α} {other : β} (permuted : List.Forall₂ List.Perm lists others)
    (holds : related group other) :
    Option.Rel related (unlessEmpty lists group) (unlessEmpty others other) := by
  have empty : lists.all List.isEmpty = others.all List.isEmpty := by
    induction permuted with
    | nil => rfl
    | cons first _ ih => rw [List.all_cons, List.all_cons, first.isEmpty_eq, ih]
  unfold unlessEmpty
  rw [empty]
  cases others.all List.isEmpty with
  | true => exact .none
  | false => exact .some holds

theorem head?_eq_of_perm {left right : List α} (permuted : left.Perm right)
    (short : ¬ 1 < left.length) : left.head? = right.head? := by
  cases left with
  | nil => rw [permuted.nil_eq]
  | cons first rest =>
      have alone : rest = [] := by
        apply List.eq_nil_of_length_eq_zero
        rw [List.length_cons] at short
        omega
      subst alone
      rw [List.perm_singleton.mp permuted.symm]

/-- The devices on a window make the same window in every order, or are refused for the same
reason. -/
theorem WindowAssembly.ofMembers_reordered {room : String} {id : UInt32}
    {members others : List Device} (permuted : members.Perm others) :
    EndsAlike WindowAssembly.Reordered (ofMembers room id members) (ofMembers room id others) := by
  have having (capability : Capability) :
      (members.filter (·.has capability)).Perm (others.filter (·.has capability)) :=
    permuted.filter _
  have frames := having .windowFrame
  have motors := having .shutter
  unfold ofMembers
  dsimp only
  match found : members.filter (·.has .windowFrame) with
  | [] =>
      rw [found] at frames
      rw [found, ← frames.nil_eq]
      exact .defect _
  | [frame] =>
      rw [found] at frames
      rw [found, List.perm_singleton.mp frames.symm]
      dsimp only
      rw [← motors.length_eq]
      by_cases crowded : 1 < (members.filter (·.has .shutter)).length
      · rw [if_pos crowded, if_pos crowded]
        exact .defect _
      · rw [if_neg crowded, if_neg crowded]
        apply EndsAlike.result
        exact {
          id := rfl
          frame := rfl
          blindMotor := head?_eq_of_perm motors crowded
          sunrise := rfl
          handles := having .handle
          vibrations := having .vibration
          magnetContacts := having .magnetContact }
  | first :: second :: rest =>
      rw [found] at frames
      match otherFound : others.filter (·.has .windowFrame) with
      | [] => simp [otherFound] at frames
      | [frame] => simpa [otherFound] using frames.length_eq
      | otherFirst :: otherSecond :: otherRest =>
          rw [otherFound] at frames
          rw [found, otherFound]
          dsimp only
          rw [frames.length_eq]
          exact .defect _

namespace RoomGroups.ListsReordered

variable {left right : RoomGroups} (lists : left.ListsReordered right)
include lists

theorem kinds_eq : left.kinds = right.kinds := by
  have shown {α β : Type} {related : α → β → Prop} {items : List α} {others : List β}
      (holds : List.Forall₂ related items others) : items.isEmpty = others.isEmpty := by
    cases holds <;> rfl
  have present {α β : Type} {related : α → β → Prop} {group : Option α} {other : Option β}
      (holds : Option.Rel related group other) : group.isSome = other.isSome := by
    cases holds <;> rfl
  simp only [kinds, shown lists.windows, present lists.presence, present lists.light,
    present lists.buttons, present lists.smoke, present lists.water, present lists.heating,
    present lists.speakers]

theorem reordered (writebacks : left.roomNameWritebacks.Perm right.roomNameWritebacks) :
    left.Reordered right :=
  ⟨lists, lists.kinds_eq, writebacks⟩

end RoomGroups.ListsReordered

theorem getD_perm {group other : Option (List Device)}
    (reordered : Option.Rel List.Perm group other) : (group.getD []).Perm (other.getD []) := by
  cases reordered with
  | none => exact .refl _
  | some permuted => exact permuted

/-! ## Rooms -/

namespace Room

theorem Consistent.mem_devicesOfType_iff {room : Room} (consistent : room.Consistent)
    {type : String} {device : Device} :
    device ∈ room.devicesOfType type ↔ device ∈ room.devices ∧ device.type = type := by
  constructor
  · intro listed
    unfold devicesOfType at listed
    cases found : room.byType.get? type with
    | none => simp [found] at listed
    | some slots =>
        simp only [found, devicesAt, List.mem_filterMap] at listed
        obtain ⟨position, held, located⟩ := listed
        obtain ⟨slot, inSlots, rfl⟩ := List.mem_map.mp held
        obtain ⟨other, otherLocated, ofType, _⟩ := consistent.device_of_slot found inSlots
        obtain rfl := Option.some.inj (located.symm.trans otherLocated)
        exact ⟨List.mem_of_getElem? located, ofType⟩
  · intro inRoom
    obtain ⟨inRoom, rfl⟩ := inRoom
    obtain ⟨position, located⟩ := List.mem_iff_getElem?.mp inRoom
    have taken := consistent.position_iff.mpr ⟨device, located, rfl, rfl⟩
    obtain ⟨slots, found, inSlots⟩ := Option.bind_eq_some_iff.mp taken
    simp only [devicesOfType, found, devicesAt, List.mem_filterMap]
    exact ⟨position, slots.mem_values_iff.mpr ⟨_, inSlots⟩, located⟩

theorem mem_deviceTypes_foldl_append {devices : List Device} {room : Room} {type : String} :
    type ∈ (devices.foldl append room).deviceTypes ↔
      type ∈ room.deviceTypes ∨ ∃ device ∈ devices, device.type = type := by
  induction devices generalizing room with
  | nil => simp
  | cons device rest ih =>
      have added : type ∈ (room.append device).deviceTypes ↔
          device.type = type ∨ type ∈ room.deviceTypes := by
        rw [eq_comm (a := device.type)]
        exact room.byType.mem_keys_insert
      rw [List.foldl_cons, ih, added, List.exists_mem_cons_iff, or_comm (a := device.type = type),
        or_assoc]

section Pair

variable {left right : Room} (leftConsistent : left.Consistent) (rightConsistent : right.Consistent)
  (permuted : left.devices.Perm right.devices)
include leftConsistent rightConsistent permuted

theorem devicesOfType_eq (type : String) : left.devicesOfType type = right.devicesOfType type := by
  apply SortedMap.eq_of_increasing _ (leftConsistent.devicesOfType_increasing type)
    (rightConsistent.devicesOfType_increasing type)
  · intro device
    rw [leftConsistent.mem_devicesOfType_iff, rightConsistent.mem_devicesOfType_iff,
      permuted.mem_iff]
  · intro first second before
    exact UInt32.lt_asymm before

theorem groupTags_eq : left.groupTags = right.groupTags := by
  apply SortedMap.keys_eq_of_mem_iff
  intro tag
  have carried : (∃ device ∈ left.devices, tag ∈ device.tags) ↔
      ∃ device ∈ right.devices, tag ∈ device.tags := by
    simp only [permuted.mem_iff]
  apply leftConsistent.mem_groupTags_iff.trans
  exact carried.trans rightConsistent.mem_groupTags_iff.symm

theorem hasManagedDevices_eq : left.hasManagedDevices = right.hasManagedDevices := by
  rw [Bool.eq_iff_iff, leftConsistent.managed_iff, rightConsistent.managed_iff]
  simp only [permuted.mem_iff]

theorem group_perm (tag : GroupTag) : (left.group tag).Perm (right.group tag) := by
  rw [leftConsistent.group_eq_filter, rightConsistent.group_eq_filter]
  exact permuted.filter _

omit leftConsistent rightConsistent in
theorem ambientHaving_perm (enough : List Capability) :
    (ambientHaving left.devices enough).Perm (ambientHaving right.devices enough) :=
  permuted.filter _

theorem ambientGroup_reordered {enough : List Capability} {tag : GroupTag}
    (row : (enough, tag) ∈ GroupTag.ambient) :
    Option.Rel List.Perm (nonempty? (left.group tag)) (nonempty? (right.group tag)) := by
  have ambient := ambientHaving_perm permuted enough
  rw [leftConsistent.nonempty?_group row, rightConsistent.nonempty?_group row]
  exact unlessEmpty_reordered (.cons ambient .nil) ambient

theorem presenceGroup_reordered :
    Option.Rel PresenceGroup.Reordered left.presenceGroup? right.presenceGroup? := by
  have ambient := ambientHaving_perm permuted
  rw [leftConsistent.presenceGroup?_eq, rightConsistent.presenceGroup?_eq]
  apply unlessEmpty_reordered
  · exact .cons (ambient _) (.cons (ambient _) .nil)
  · exact ⟨ambient _, ambient _⟩

theorem lightGroup_reordered :
    Option.Rel LightGroup.Reordered left.lightGroup? right.lightGroup? := by
  have ambient := ambientHaving_perm permuted
  rw [leftConsistent.lightGroup?_eq, rightConsistent.lightGroup?_eq]
  apply unlessEmpty_reordered
  · exact .cons (ambient _) (.cons (ambient _) (.cons (ambient _) (.cons (ambient _) .nil)))
  · exact ⟨ambient _, ambient _, ambient _, ambient _⟩

theorem heatingGroup_reordered :
    Option.Rel HeatingGroup.Reordered left.heatingGroup? right.heatingGroup? := by
  have ambient := ambientHaving_perm permuted
  have cooling := permuted.filter (·.has .airConditioner)
  rw [leftConsistent.heatingGroup?_eq, rightConsistent.heatingGroup?_eq]
  apply unlessEmpty_reordered
  · exact .cons (ambient _) (.cons (ambient _) (.cons (ambient _) (.cons cooling .nil)))
  · exact ⟨ambient _, ambient _, ambient _, cooling⟩

theorem groups_reordered (sameName : left.shortName = right.shortName) :
    EndsAlike RoomGroups.Reordered (RoomGroups.ofRoom left) (RoomGroups.ofRoom right) := by
  have sameIds : left.windowIds = right.windowIds := by
    rw [windowIds, windowIds, groupTags_eq leftConsistent rightConsistent permuted]
  unfold RoomGroups.ofRoom
  rw [sameName, sameIds]
  apply EndsAlike.bind (EndsAlike.mapM fun id _ => WindowAssembly.ofMembers_reordered
    (group_perm leftConsistent rightConsistent permuted (.window id)))
  intro windows others alike
  apply EndsAlike.result
  have single (enough : List Capability) (tag : GroupTag)
      (row : (enough, tag) ∈ GroupTag.ambient) :=
    ambientGroup_reordered leftConsistent rightConsistent permuted row
  have smoke := single [.smokeDetector] .smoke (by decide)
  have water := single [.waterDetector] .water (by decide)
  refine RoomGroups.ListsReordered.reordered ?_ ((getD_perm smoke).append (getD_perm water))
  exact {
    windows := alike
    presence := presenceGroup_reordered leftConsistent rightConsistent permuted
    light := lightGroup_reordered leftConsistent rightConsistent permuted
    buttons := single [.button] _ (by decide)
    smoke := smoke
    water := water
    heating := heatingGroup_reordered leftConsistent rightConsistent permuted
    speakers := single [.speaker] _ (by decide) }

end Pair

theorem Compatible.symm {left right : Device} (compatible : left.Compatible right) :
    right.Compatible left := by
  obtain ⟨indexed, named⟩ := compatible
  refine ⟨?_, ?_⟩
  · intro same
    exact indexed ⟨same.1.symm, same.2.symm⟩
  · intro clash
    obtain ⟨rightMembers, leftMembers, same⟩ := clash
    exact named ⟨leftMembers, rightMembers, same.symm⟩

/-- If a room takes some plans, it takes them in any other order, and the rooms differ in the order
of lists only. -/
theorem Consistent.withDevices_reordered {fresh room : Room} (consistent : fresh.Consistent)
    {catalog : Catalog} {plans others : List DevicePlan} (permuted : plans.Perm others)
    (filled : fresh.withDevices catalog plans = .ok room) :
    ∃ other, fresh.withDevices catalog others = .ok other ∧ room.Reordered other := by
  obtain ⟨devices, compiles, across, within, rfl⟩ := consistent.withDevices_eq_ok_iff.mp filled
  obtain ⟨otherDevices, otherCompiles, reordered⟩ :=
    List.perm_comp_forall₂ permuted.symm compiles
  have otherAcross : ∀ present ∈ fresh.devices, ∀ device ∈ otherDevices,
      present.Compatible device := by
    intro present inFresh device member
    exact across present inFresh device (reordered.mem_iff.mp member)
  have otherWithin : otherDevices.Pairwise Device.Compatible :=
    (reordered.pairwise_iff Compatible.symm).mpr within
  have otherFilled : fresh.withDevices catalog others =
      .ok (otherDevices.foldl Room.append fresh) :=
    consistent.withDevices_eq_ok_iff.mpr
      ⟨otherDevices, otherCompiles, otherAcross, otherWithin, rfl⟩
  have leftConsistent := consistent.withDevices filled
  have rightConsistent := consistent.withDevices otherFilled
  have sameDevices : (devices.foldl Room.append fresh).devices.Perm
      (otherDevices.foldl Room.append fresh).devices := by
    rw [foldl_append_devices, foldl_append_devices]
    exact reordered.symm.append_left _
  have sameName : (devices.foldl Room.append fresh).shortName =
      (otherDevices.foldl Room.append fresh).shortName := by
    rw [foldl_append_shortName, foldl_append_shortName]
  have sameTypes : (devices.foldl Room.append fresh).deviceTypes =
      (otherDevices.foldl Room.append fresh).deviceTypes := by
    apply SortedMap.keys_eq_of_mem_iff
    intro type
    apply mem_deviceTypes_foldl_append.trans
    apply Iff.trans _ mem_deviceTypes_foldl_append.symm
    simp only [reordered.mem_iff]
  refine ⟨_, otherFilled, ?_⟩
  exact {
    devices := sameDevices
    deviceTypes := sameTypes
    devicesOfType := devicesOfType_eq leftConsistent rightConsistent sameDevices
    groupTags := groupTags_eq leftConsistent rightConsistent sameDevices
    managed := hasManagedDevices_eq leftConsistent rightConsistent sameDevices
    group := group_perm leftConsistent rightConsistent sameDevices
    assembled := groups_reordered leftConsistent rightConsistent sameDevices sameName }

/-- A new room takes a list of plans in every order or in none, and the rooms differ in the order of
lists only. -/
theorem plans_taken_in_any_order {catalog : Catalog} {roomPlan : RoomPlan} {fresh : Room}
    {plans others : List DevicePlan} (accepted : Room.ofPlan roomPlan = .ok fresh)
    (permuted : plans.Perm others) :
    ((∃ room, fresh.withDevices catalog plans = .ok room) ↔
      ∃ other, fresh.withDevices catalog others = .ok other) ∧
    ∀ room other, fresh.withDevices catalog plans = .ok room →
      fresh.withDevices catalog others = .ok other → room.Reordered other := by
  have consistent := Consistent.ofPlan accepted
  refine ⟨⟨?_, ?_⟩, ?_⟩
  · intro taken
    obtain ⟨room, filled⟩ := taken
    obtain ⟨other, otherFilled, _⟩ := consistent.withDevices_reordered permuted filled
    exact ⟨other, otherFilled⟩
  · intro taken
    obtain ⟨other, otherFilled⟩ := taken
    obtain ⟨room, filled, _⟩ := consistent.withDevices_reordered permuted.symm otherFilled
    exact ⟨room, filled⟩
  · intro room other filled otherFilled
    obtain ⟨found, foundFilled, reordered⟩ := consistent.withDevices_reordered permuted filled
    cases otherFilled.symm.trans foundFilled
    exact reordered

/-- Two motion sensors and a window, listed forwards and backwards.  Only the order of the sensors
in their group differs. -/
theorem reversed_plans_taken :
    let roomPlan : RoomPlan := { shortName := "Flur", longName := "Flur", floor := 0 }
    let plans : List DevicePlan :=
      [{ type := "HmIpBewegung", index := 0, includeInGroup := true },
        { type := "Window", index := 0, windowId := some 2 },
        { type := "HmIpGriff", index := 0, windowId := some 2 },
        { type := "HmIpBewegung", index := 2, includeInGroup := true }]
    ∃ fresh room other, Room.ofPlan roomPlan = .ok fresh ∧
      fresh.withDevices .builtin plans = .ok room ∧
      fresh.withDevices .builtin plans.reverse = .ok other ∧
      room.group .motion ≠ other.group .motion ∧ room.Reordered other := by
  intro roomPlan plans
  have runs : (Room.ofPlan roomPlan >>= fun fresh =>
      fresh.withDevices .builtin plans >>= fun room =>
      fresh.withDevices .builtin plans.reverse >>= fun other =>
        .ok (room.group .motion == other.group .motion)) = .ok false := by
    decide +kernel
  obtain ⟨fresh, accepted, later⟩ := bind_eq_ok.mp runs
  obtain ⟨room, filled, later⟩ := bind_eq_ok.mp later
  obtain ⟨other, otherFilled, differs⟩ := bind_eq_ok.mp later
  have permuted : plans.Perm plans.reverse := (List.reverse_perm plans).symm
  have sensorsDiffer : room.group .motion ≠ other.group .motion :=
    beq_eq_false_iff_ne.mp (Except.ok.inj differs)
  exact ⟨fresh, room, other, accepted, filled, otherFilled, sensorsDiffer,
    (plans_taken_in_any_order accepted permuted).2 room other filled otherFilled⟩

end Room

end Homeplan
