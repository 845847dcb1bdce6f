import Homeplan.Proofs.Room.Insertion
import Homeplan.Proofs.Room.Names
import Homeplan.Proofs.Room.Tags

namespace Homeplan

/-! The groups of a room hold exactly the devices that their plans and types ask for.

`RoomGroups.Matches` describes every list of every group as a filter of the devices of the room, so
it names no tag, bucket or position.  A device is ambient if it is on no window and asks to join the
groups of its room.
-/

/-- A group, unless all of its lists are empty. -/
def unlessEmpty (lists : List (List Device)) (group : α) : Option α :=
  if lists.all List.isEmpty then none else some group

theorem nonempty?_eq_unlessEmpty (devices : List Device) :
    nonempty? devices = unlessEmpty [devices] devices := by
  simp [nonempty?, unlessEmpty]

/-- A window holds the devices on it by their capabilities, and its only frame says whether the
shutter stays down at sunrise. -/
structure WindowAssembly.Matches (window : WindowAssembly) (devices : List Device) : Prop where
  frame : mountedHaving devices window.id .windowFrame = [window.frame]
  handles : window.handles = mountedHaving devices window.id .handle
  vibrations : window.vibrations = mountedHaving devices window.id .vibration
  blindMotor : window.blindMotor.toList = mountedHaving devices window.id .shutter
  magnetContacts : window.magnetContacts = mountedHaving devices window.id .magnetContact
  sunrise : window.noShutterOnSunrise =
    window.frame.plan.extra.any fun extras => extras.noShutterOnSunrise

/-- Every kind of group, in the order in which the groups are built. -/
def GroupKind.all : List GroupKind :=
  [.window, .presence, .light, .buttons, .smoke, .water, .heating, .speaker]

/-- Whether a device alone is enough for a room to have a group of this kind. -/
def GroupKind.takes (kind : GroupKind) (device : Device) : Bool :=
  let ambientWith (enough : List Capability) := device.plan.isAmbient && enough.any device.has
  match kind with
  | .window => device.plan.windowId.isSome
  | .presence => ambientWith [.motion, .presence]
  | .light => ambientWith [.lamp, .dimmableLamp, .plug, .led, .ledStrip]
  | .buttons => ambientWith [.button]
  | .smoke => ambientWith [.smokeDetector]
  | .water => ambientWith [.waterDetector]
  | .heating => ambientWith [.heaterActuator, .temperature, .humidity] || device.has .airConditioner
  | .speaker => ambientWith [.speaker]

/-- The windows are those that some device is on, by increasing number. -/
structure RoomGroups.WindowsMatch (groups : RoomGroups) (devices : List Device) : Prop where
  increasing : (groups.windows.map (·.id)).Pairwise (· < ·)
  mem_iff : ∀ id, id ∈ groups.windows.map (·.id) ↔
    ∃ device ∈ devices, device.plan.windowId = some id
  each : ∀ window ∈ groups.windows, window.Matches devices

/-- Every list of a group that is not about windows holds the ambient devices with a capability, but
that air conditioners count whether or not they are ambient. -/
structure RoomGroups.ListsMatch (groups : RoomGroups) (devices : List Device) : Prop where
  presence : groups.presence =
    let motion := ambientHaving devices [.motion]
    let presence := ambientHaving devices [.presence]
    unlessEmpty [motion, presence] ⟨motion, presence⟩
  light : groups.light =
    let lamps := ambientHaving devices [.lamp, .dimmableLamp]
    let plugs := ambientHaving devices [.plug]
    let leds := ambientHaving devices [.led]
    let stripes := ambientHaving devices [.ledStrip]
    unlessEmpty [lamps, plugs, leds, stripes] ⟨lamps, plugs, leds, stripes⟩
  buttons : groups.buttons =
    let buttons := ambientHaving devices [.button]
    unlessEmpty [buttons] buttons
  smoke : groups.smoke =
    let detectors := ambientHaving devices [.smokeDetector]
    unlessEmpty [detectors] detectors
  water : groups.water =
    let detectors := ambientHaving devices [.waterDetector]
    unlessEmpty [detectors] detectors
  heating : groups.heating =
    let heaters := ambientHaving devices [.heaterActuator]
    let temperature := ambientHaving devices [.temperature]
    let humidity := ambientHaving devices [.humidity]
    let airConditioners := devices.filter (·.has .airConditioner)
    unlessEmpty [heaters, temperature, humidity, airConditioners]
      ⟨heaters, temperature, humidity, airConditioners⟩
  speakers : groups.speakers =
    let speakers := ambientHaving devices [.speaker]
    unlessEmpty [speakers] speakers

/-- The groups say about some devices what the plans and the types of the devices say. -/
structure RoomGroups.Matches (groups : RoomGroups) (devices : List Device) : Prop where
  windows : groups.WindowsMatch devices
  lists : groups.ListsMatch devices
  writebacks : groups.roomNameWritebacks =
    ambientHaving devices [.smokeDetector] ++ ambientHaving devices [.waterDetector]
  mem_kinds_iff : ∀ kind, kind ∈ groups.kinds ↔ ∃ device ∈ devices, kind.takes device = true
  kindsOrdered : groups.kinds.Sublist GroupKind.all

section Ambient

variable {devices : List Device} {enough : List Capability}

theorem ambientHaving_eq_nil_iff :
    ambientHaving devices enough = [] ↔
      ∀ device ∈ devices, (device.plan.isAmbient && enough.any device.has) = false := by
  simp [ambientHaving, List.filter_eq_nil_iff]

theorem filter_ambientHaving {capability : Capability} (member : capability ∈ enough) :
    (ambientHaving devices enough).filter (·.has capability) =
      ambientHaving devices [capability] := by
  rw [ambientHaving, List.filter_filter, ambientHaving]
  refine List.filter_congr fun device _ => ?_
  by_cases has : device.has capability = true
  · have among : enough.any device.has = true := List.any_eq_true.mpr ⟨capability, member, has⟩
    simp [has, among]
  · simp [has]

end Ambient

theorem WindowAssembly.ofMembers_eq_ok_iff {room : String} {id : UInt32} {members : List Device}
    {window : WindowAssembly} :
    WindowAssembly.ofMembers room id members = .ok window ↔
      members.filter (·.has .windowFrame) = [window.frame] ∧
      window.blindMotor.toList = members.filter (·.has .shutter) ∧ window.id = id ∧
      window.handles = members.filter (·.has .handle) ∧
      window.vibrations = members.filter (·.has .vibration) ∧
      window.magnetContacts = members.filter (·.has .magnetContact) ∧
      window.noShutterOnSunrise = window.frame.noShutterOnSunrise := by
  obtain ⟨windowId, windowFrame, handles, vibrations, blindMotor, magnetContacts, sunrise⟩ := window
  unfold WindowAssembly.ofMembers
  -- One frame and at most one motor are accepted, so the lists are told apart up to two members.
  match frames : members.filter (·.has .windowFrame) with
  | [] => simp [frames]
  | [frame] =>
      match motors : members.filter (·.has .shutter) with
      | [] => cases blindMotor <;> simp [frames, motors]; grind
      | [motor] => cases blindMotor <;> simp [frames, motors]; grind
      | first :: second :: rest => cases blindMotor <;> simp [frames, motors]
  | first :: second :: rest => simp [frames]

namespace Room.Consistent

variable {room : Room} (consistent : room.Consistent)
include consistent

theorem window_matches {id : UInt32} {window : WindowAssembly}
    (assembled :
      WindowAssembly.ofMembers room.shortName id (room.group (.window id)) = .ok window) :
    window.Matches room.devices := by
  simp only [WindowAssembly.ofMembers_eq_ok_iff, consistent.filter_group_window] at assembled
  obtain ⟨frame, motors, rfl, handles, vibrations, contacts, sunrise⟩ := assembled
  exact ⟨frame, handles, vibrations, motors, contacts, sunrise⟩

theorem presenceGroup?_eq :
    room.presenceGroup? =
      let motion := ambientHaving room.devices [.motion]
      let presence := ambientHaving room.devices [.presence]
      unlessEmpty [motion, presence] ⟨motion, presence⟩ := by
  have motion : room.group .motion = ambientHaving room.devices [.motion] :=
    consistent.group_ambient (by decide)
  have presence : room.group .presence = ambientHaving room.devices [.presence] :=
    consistent.group_ambient (by decide)
  simp [presenceGroup?, unlessEmpty, motion, presence]

theorem lightGroup?_eq :
    room.lightGroup? =
      let lamps := ambientHaving room.devices [.lamp, .dimmableLamp]
      let plugs := ambientHaving room.devices [.plug]
      let leds := ambientHaving room.devices [.led]
      let stripes := ambientHaving room.devices [.ledStrip]
      unlessEmpty [lamps, plugs, leds, stripes] ⟨lamps, plugs, leds, stripes⟩ := by
  have lamps : room.group .light = ambientHaving room.devices [.lamp, .dimmableLamp] :=
    consistent.group_ambient (by decide)
  have plugs : room.group .plug = ambientHaving room.devices [.plug] :=
    consistent.group_ambient (by decide)
  have leds : room.group .led = ambientHaving room.devices [.led] :=
    consistent.group_ambient (by decide)
  have stripes : room.group .stripe = ambientHaving room.devices [.ledStrip] :=
    consistent.group_ambient (by decide)
  simp [lightGroup?, unlessEmpty, and_assoc, lamps, plugs, leds, stripes]

/-- A member of the heating bucket is in at least one of the three lists that are filtered from it,
so the bucket is empty if and only if all of them are. -/
theorem heatingGroup?_eq :
    room.heatingGroup? =
      let heaters := ambientHaving room.devices [.heaterActuator]
      let temperature := ambientHaving room.devices [.temperature]
      let humidity := ambientHaving room.devices [.humidity]
      let airConditioners := room.devices.filter (·.has .airConditioner)
      unlessEmpty [heaters, temperature, humidity, airConditioners]
        ⟨heaters, temperature, humidity, airConditioners⟩ := by
  have bucket : room.group .heating =
      ambientHaving room.devices [.heaterActuator, .temperature, .humidity] :=
    consistent.group_ambient (by decide)
  have empty : (room.group .heating).isEmpty =
      ((ambientHaving room.devices [.heaterActuator]).isEmpty &&
        (ambientHaving room.devices [.temperature]).isEmpty &&
          (ambientHaving room.devices [.humidity]).isEmpty) := by
    rw [Bool.eq_iff_iff, bucket]
    simp only [Bool.and_eq_true, List.isEmpty_iff, ambientHaving_eq_nil_iff, ← forall_and]
    refine forall₂_congr fun device _ => ?_
    cases device.plan.isAmbient <;> simp [and_assoc]
  simp only [heatingGroup?, unlessEmpty, empty, List.all_cons, List.all_nil, Bool.and_true,
    Bool.and_assoc]
  rw [bucket, filter_ambientHaving (by decide), filter_ambientHaving (by decide),
    filter_ambientHaving (by decide)]

theorem nonempty?_group {enough : List Capability} {tag : GroupTag}
    (row : (enough, tag) ∈ GroupTag.ambient) :
    nonempty? (room.group tag) =
      unlessEmpty [ambientHaving room.devices enough] (ambientHaving room.devices enough) := by
  rw [nonempty?_eq_unlessEmpty, consistent.group_ambient row]

end Room.Consistent

theorem RoomGroups.ofRoom_eq_ok_iff {room : Room} {groups : RoomGroups} :
    RoomGroups.ofRoom room = .ok groups ↔
      List.Forall₂ (fun id window =>
          WindowAssembly.ofMembers room.shortName id (room.group (.window id)) = .ok window)
        room.windowIds groups.windows ∧
      groups.presence = room.presenceGroup? ∧ groups.light = room.lightGroup? ∧
      groups.buttons = nonempty? (room.group .button) ∧
      groups.smoke = nonempty? (room.group .smoke) ∧
      groups.water = nonempty? (room.group .water) ∧
      groups.heating = room.heatingGroup? ∧
      groups.speakers = nonempty? (room.group .speaker) ∧
      groups.roomNameWritebacks = groups.smoke.getD [] ++ groups.water.getD [] := by
  obtain ⟨windows, presence, light, buttons, smoke, water, heating, speakers, writebacks⟩ := groups
  simp only [RoomGroups.ofRoom, bind_eq_ok, mapM_eq_ok_iff, pure, Except.pure, Except.ok.injEq,
    RoomGroups.mk.injEq]
  constructor
  · intro assembled
    obtain ⟨found, matched, rfl, rfl, rfl, rfl, rfl, rfl, rfl, rfl, rfl⟩ := assembled
    exact ⟨matched, rfl, rfl, rfl, rfl, rfl, rfl, rfl, rfl⟩
  · intro assembled
    obtain ⟨matched, rfl, rfl, rfl, rfl, rfl, rfl, rfl, rfl⟩ := assembled
    exact ⟨windows, matched, rfl, rfl, rfl, rfl, rfl, rfl, rfl, rfl, rfl⟩

theorem WindowAssembly.map_id_of_assembled {room : Room} {ids : List UInt32}
    {windows : List WindowAssembly}
    (assembled : List.Forall₂ (fun id window =>
      WindowAssembly.ofMembers room.shortName id (room.group (.window id)) = .ok window)
      ids windows) :
    windows.map (·.id) = ids := by
  induction assembled with
  | nil => rfl
  | cons first _ ih =>
      obtain ⟨_, _, same, _⟩ := WindowAssembly.ofMembers_eq_ok_iff.mp first
      simp [same, ih]

section Kinds

variable {devices : List Device}

theorem isSome_unlessEmpty_iff {lists : List (List Device)} {group : α} :
    (unlessEmpty lists group).isSome = true ↔ ∃ list ∈ lists, ∃ device, device ∈ list := by
  have someEmpty : (unlessEmpty lists group).isSome = true ↔ lists.all List.isEmpty = false := by
    unfold unlessEmpty
    cases lists.all List.isEmpty <;> simp
  simp only [someEmpty, List.all_eq_false, Bool.not_eq_true, List.isEmpty_eq_false_iff_exists_mem]

theorem getD_unlessEmpty (list : List Device) : (unlessEmpty [list] list).getD [] = list := by
  cases list <;> simp [unlessEmpty]

/-- Some of several ambient lists has a member if and only if one device has one of all their
capabilities. -/
theorem exists_mem_ambient_iff (enoughs : List (List Capability)) :
    (∃ list ∈ enoughs.map (ambientHaving devices), ∃ device, device ∈ list) ↔
      ∃ device ∈ devices, (device.plan.isAmbient && enoughs.flatten.any device.has) = true := by
  simp only [ambientHaving, List.mem_map, exists_exists_and_eq_and, List.mem_filter,
    Bool.and_eq_true, List.any_eq_true, List.mem_flatten]
  constructor
  · intro present
    obtain ⟨enough, listed, device, inRoom, ambient, capability, member, has⟩ := present
    exact ⟨device, inRoom, ambient, capability, ⟨enough, listed, member⟩, has⟩
  · intro present
    obtain ⟨device, inRoom, ambient, capability, ⟨enough, listed, member⟩, has⟩ := present
    exact ⟨enough, listed, device, inRoom, ambient, capability, member, has⟩

theorem isSome_unlessEmpty_ambient_iff (enoughs : List (List Capability)) {group : α} :
    (unlessEmpty (enoughs.map (ambientHaving devices)) group).isSome = true ↔
      ∃ device ∈ devices, (device.plan.isAmbient && enoughs.flatten.any device.has) = true :=
  isSome_unlessEmpty_iff.trans (exists_mem_ambient_iff enoughs)

end Kinds

namespace RoomGroups

theorem kinds_sublist (groups : RoomGroups) : groups.kinds.Sublist GroupKind.all := by
  have filtered (table : List (GroupKind × Bool)) :
      (table.filterMap fun row => if row.2 then some row.1 else none).Sublist
        (table.map (·.1)) := by
    induction table with
    | nil => exact .slnil
    | cons row rest ih =>
        obtain ⟨kind, present⟩ := row
        cases present
        · exact ih.cons kind
        · exact ih.cons_cons kind
  exact filtered _

section Assembled

variable {room : Room} (consistent : room.Consistent) {groups : RoomGroups}
  (assembled : RoomGroups.ofRoom room = .ok groups)
include consistent assembled

theorem windowsMatch_of_ofRoom : groups.WindowsMatch room.devices := by
  obtain ⟨windows, _⟩ := RoomGroups.ofRoom_eq_ok_iff.mp assembled
  have ids := WindowAssembly.map_id_of_assembled windows
  refine ⟨ids ▸ room.windowIds_increasing, fun id => ?_, fun window member => ?_⟩
  · rw [ids, consistent.mem_windowIds_iff]
  · obtain ⟨id, _, found⟩ := exists_related_of_mem windows member
    exact consistent.window_matches found

theorem listsMatch_of_ofRoom : groups.ListsMatch room.devices := by
  obtain ⟨_, presence, light, buttons, smoke, water, heating, speakers, _⟩ :=
    RoomGroups.ofRoom_eq_ok_iff.mp assembled
  exact {
    presence := presence.trans consistent.presenceGroup?_eq
    light := light.trans consistent.lightGroup?_eq
    buttons := buttons.trans (consistent.nonempty?_group (by decide))
    smoke := smoke.trans (consistent.nonempty?_group (by decide))
    water := water.trans (consistent.nonempty?_group (by decide))
    heating := heating.trans consistent.heatingGroup?_eq
    speakers := speakers.trans (consistent.nonempty?_group (by decide)) }

theorem writebacks_of_ofRoom : groups.roomNameWritebacks =
    ambientHaving room.devices [.smokeDetector] ++
      ambientHaving room.devices [.waterDetector] := by
  have lists := listsMatch_of_ofRoom consistent assembled
  obtain ⟨_, _, _, _, _, _, _, _, writebacks⟩ := RoomGroups.ofRoom_eq_ok_iff.mp assembled
  rw [writebacks, lists.smoke, lists.water, getD_unlessEmpty, getD_unlessEmpty]

end Assembled

section Kinds

variable {groups : RoomGroups} {devices : List Device}

theorem heating_isSome_iff (lists : groups.ListsMatch devices) :
    groups.heating.isSome = true ↔ ∃ device ∈ devices, GroupKind.heating.takes device = true := by
  have ambient := @exists_mem_ambient_iff devices
    [[.heaterActuator], [.temperature], [.humidity]]
  have cooled : (∃ list ∈ [devices.filter (·.has .airConditioner)], ∃ device, device ∈ list) ↔
      ∃ device ∈ devices, device.has .airConditioner = true := by simp
  -- The group has four lists, three of ambient devices and one that takes every air conditioner.
  have either := or_congr ambient cooled
  rw [← exists_or] at either
  simp only [← or_and_right, ← List.mem_append] at either
  rw [lists.heating]
  refine isSome_unlessEmpty_iff.trans (either.trans ?_)
  simp only [GroupKind.takes, Bool.or_eq_true, and_or_left, exists_or]
  rfl

theorem mem_kinds_iff (windows : groups.WindowsMatch devices) (lists : groups.ListsMatch devices)
    (kind : GroupKind) :
    kind ∈ groups.kinds ↔ ∃ device ∈ devices, kind.takes device = true := by
  cases kind with
  | window =>
      have listed : .window ∈ groups.kinds ↔ ∃ id, id ∈ groups.windows.map (·.id) := by
        cases shape : groups.windows <;> simp [kinds, shape]
      simp only [listed, windows.mem_iff, GroupKind.takes, Option.isSome_iff_exists]
      tauto
  | presence =>
      have listed : .presence ∈ groups.kinds ↔ groups.presence.isSome = true := by simp [kinds]
      rw [listed, lists.presence]
      exact isSome_unlessEmpty_ambient_iff [[.motion], [.presence]]
  | light =>
      have listed : .light ∈ groups.kinds ↔ groups.light.isSome = true := by simp [kinds]
      rw [listed, lists.light]
      exact isSome_unlessEmpty_ambient_iff [[.lamp, .dimmableLamp], [.plug], [.led], [.ledStrip]]
  | buttons =>
      have listed : .buttons ∈ groups.kinds ↔ groups.buttons.isSome = true := by simp [kinds]
      rw [listed, lists.buttons]
      exact isSome_unlessEmpty_ambient_iff [[.button]]
  | smoke =>
      have listed : .smoke ∈ groups.kinds ↔ groups.smoke.isSome = true := by simp [kinds]
      rw [listed, lists.smoke]
      exact isSome_unlessEmpty_ambient_iff [[.smokeDetector]]
  | water =>
      have listed : .water ∈ groups.kinds ↔ groups.water.isSome = true := by simp [kinds]
      rw [listed, lists.water]
      exact isSome_unlessEmpty_ambient_iff [[.waterDetector]]
  | heating =>
      have listed : .heating ∈ groups.kinds ↔ groups.heating.isSome = true := by simp [kinds]
      rw [listed, heating_isSome_iff lists]
  | speaker =>
      have listed : .speaker ∈ groups.kinds ↔ groups.speakers.isSome = true := by simp [kinds]
      rw [listed, lists.speakers]
      exact isSome_unlessEmpty_ambient_iff [[.speaker]]

end Kinds

theorem matches_of_ofRoom {room : Room} (consistent : room.Consistent) {groups : RoomGroups}
    (assembled : RoomGroups.ofRoom room = .ok groups) : groups.Matches room.devices := by
  have windows := windowsMatch_of_ofRoom consistent assembled
  have lists := listsMatch_of_ofRoom consistent assembled
  exact ⟨windows, lists, writebacks_of_ofRoom consistent assembled, mem_kinds_iff windows lists,
    groups.kinds_sublist⟩

end RoomGroups

theorem Device.has_iff {catalog : Catalog} {owner : String} {plan : DevicePlan} {device : Device}
    (compiled : Device.compile catalog owner plan = .ok device) :
    device.plan = plan ∧ ∃ entry, catalog.get? plan.type = some entry ∧
      ∀ capability, device.has capability = true ↔
        capability = entry.deviceClass.impliedCapability ∨
          entry.capabilities.contains capability = true := by
  obtain ⟨entry, found, _, rfl⟩ := Device.compile_eq_ok_iff.mp compiled
  refine ⟨rfl, entry, found, fun capability => ?_⟩
  rw [Device.has, Device.capabilities, CatalogEntry.allCapabilities, Capabilities.contains_union,
    DeviceClass.impliedCapabilities, Capabilities.contains_ofList, List.mem_singleton]

/-- A room filled from plans has one device for each plan, in order, and its groups are exactly what
the plans and the catalog say. -/
theorem Room.groups_follow_plans {catalog : Catalog} {roomPlan : RoomPlan} {fresh room : Room}
    {plans : List DevicePlan} {groups : RoomGroups} (accepted : Room.ofPlan roomPlan = .ok fresh)
    (filled : fresh.withDevices catalog plans = .ok room)
    (assembled : RoomGroups.ofRoom room = .ok groups) :
    List.Forall₂
      (fun (plan : DevicePlan) (device : Device) =>
        device.plan = plan ∧ ∃ entry, catalog.get? plan.type = some entry ∧
          ∀ capability, device.has capability = true ↔
            capability = entry.deviceClass.impliedCapability ∨
              entry.capabilities.contains capability = true)
      plans room.devices ∧
    groups.Matches room.devices := by
  have freshConsistent := Room.Consistent.ofPlan accepted
  obtain ⟨devices, compiles, across, within, rfl⟩ :=
    freshConsistent.withDevices_eq_ok_iff.mp filled
  have consistent := freshConsistent.withDevices filled
  have noDevices : fresh.devices = [] := by
    obtain ⟨_, rfl⟩ := Room.ofPlan_eq_ok_iff.mp accepted
    rfl
  refine ⟨?_, RoomGroups.matches_of_ofRoom consistent assembled⟩
  rw [Room.foldl_append_devices, noDevices, List.nil_append]
  exact compiles.imp fun _ _ => Device.has_iff

/-- A window with a frame, a handle and a motor, a thermometer that only counts for heating, a
motion sensor that stays out of all groups, and an air conditioner that counts unasked. -/
theorem Room.groups_of_mixed_plans :
    let plans : List DevicePlan :=
      [{ type := "HmIpGriff", index := 0, windowId := some 7, includeInGroup := true },
        { type := "HmIpTherm", index := 0, includeInGroup := true },
        { type := "HmIpBewegung", index := 0 },
        { type := "Window", index := 0, windowId := some 7, extra := some ⟨true⟩ },
        { type := "OwnDaikinDevice", index := 0 },
        { type := "HmIpRoll", index := 0, windowId := some 7 }]
    let roomPlan : RoomPlan := { shortName := "Buero", longName := "Arbeitszimmer", floor := 1 }
    ∃ fresh room groups, Room.ofPlan roomPlan = .ok fresh ∧
      fresh.withDevices .builtin plans = .ok room ∧ RoomGroups.ofRoom room = .ok groups ∧
      groups.kinds = [.window, .heating] ∧ groups.Matches room.devices := by
  intro plans roomPlan
  have runs : (Room.ofPlan roomPlan >>= fun fresh => fresh.withDevices .builtin plans >>= fun room =>
      RoomGroups.ofRoom room >>= fun groups => .ok groups.kinds) = .ok [.window, .heating] := by
    decide +kernel
  obtain ⟨fresh, accepted, later⟩ := bind_eq_ok.mp runs
  obtain ⟨room, filled, later⟩ := bind_eq_ok.mp later
  obtain ⟨groups, assembled, kinds⟩ := bind_eq_ok.mp later
  exact ⟨fresh, room, groups, accepted, filled, assembled, Except.ok.inj kinds,
    (Room.groups_follow_plans accepted filled assembled).2⟩

end Homeplan
