import Homeplan.Json.Ordered
import Homeplan.Proofs.Artifact.Members
import Homeplan.Proofs.Room.Groups

namespace Homeplan

/-! The members of a room class that its module refers to.

References are chosen by capability, by group and by settings, members by device class.  They meet
for every device that has members.  Window frames have none, so a frame whose type has more than the
capability of a frame is referred to in vain, and a room can be called like the runtime service that
it is registered with.
-/

open TypeScript

/-- The property that a module would refer to a window frame by, though frames have no members. -/
def Device.Stray (device : Device) (property : String) : Prop :=
  device.deviceClass = .window ∧
    ((property = device.identifier ∧ ∃ capability, capability ≠ .windowFrame ∧
        capability ≠ .managedRegistry ∧ device.has capability = true) ∨
      (property = device.name ∧
        ∃ capability ∈ [Capability.managedRegistry, .smokeDetector, .waterDetector],
          device.has capability = true))

/-- A stray frame is of a type that adds to the capability that its class implies. -/
theorem Device.Stray.own_capability {device : Device} {property : String}
    (stray : device.Stray property) :
    ∃ capability, device.entry.capabilities.contains capability = true := by
  obtain ⟨window, reason⟩ := stray
  have beyond : ∃ capability, capability ≠ .windowFrame ∧ device.has capability = true := by
    rcases reason with ⟨_, capability, beyond, _, has⟩ | ⟨_, capability, listed, has⟩
    · exact ⟨capability, beyond, has⟩
    · refine ⟨capability, ?_, has⟩
      rintro rfl
      exact absurd listed (by decide)
  obtain ⟨capability, beyond, has⟩ := beyond
  rw [Device.has, Device.capabilities, CatalogEntry.allCapabilities, Capabilities.contains_union,
    show device.entry.deviceClass = .window from window, DeviceClass.impliedCapabilities,
    Capabilities.contains_ofList, List.mem_singleton] at has
  exact ⟨capability, has.resolve_left beyond⟩

namespace Room

/-- A property of the room class that is not among its members, but is referred to all the same. -/
def Stray (room : Room) (property : String) : Prop :=
  (∃ device ∈ room.devices, device.Stray property) ∨
    (room.shortName = "Service" ∧ property = "addInitialRoomSettings")

/-- What the module of a room refers to: the members of the class and the stray properties. -/
inductive Referable (room : Room) : String → Prop
  | fixed {property : String} : property ∈ fixedMembers → Referable room property
  | name {device : Device} : device ∈ room.memberDevices → Referable room device.name
  | slot {device : Device} : device ∈ room.busDevices → Referable room device.identifier
  | mutator {device : Device} : device ∈ room.busDevices → Referable room device.mutator
  | stray {property : String} : room.Stray property → Referable room property

variable {room : Room} {groups : RoomGroups} {property : String}

theorem Referable.declared_or_stray (referable : room.Referable property) :
    property ∈ (room.classDecl groups).memberNames ∨ room.Stray property := by
  rw [(memberNames_perm room groups).mem_iff]
  simp only [List.mem_append, List.mem_map]
  cases referable with
  | fixed member => exact Or.inl (Or.inl member)
  | name member => exact Or.inl (Or.inr (Or.inl (Or.inl ⟨_, member, rfl⟩)))
  | slot member => exact Or.inl (Or.inr (Or.inl (Or.inr ⟨_, member, rfl⟩)))
  | mutator member => exact Or.inl (Or.inr (Or.inr ⟨_, member, rfl⟩))
  | stray stray => exact Or.inr stray

/-! ## Names -/

theorem ne_className {name : String} (start : ¬ "Room".toList <+: name.toList) :
    name ≠ room.className := by
  intro same
  exact start (by simp [same, className])

theorem customizationClass_ne_className (room : Room) :
    room.customizationClass ≠ room.className := by
  intro same
  have lengths := congrArg String.length same
  simp [customizationClass] at lengths

theorem className_eq_service_iff : "RoomService" = room.className ↔ room.shortName = "Service" := by
  rw [show "RoomService" = "Room" ++ "Service" from rfl, className, String.append_right_inj,
    eq_comm]

/-! ## Expressions and statements that refer to referable members only -/

/-- The expression refers to referable members of the room class only. -/
abbrev Resolves (room : Room) (expr : Expr) : Prop :=
  expr.MembersWithin room.className room.Referable

abbrev StmtResolves (room : Room) (statement : Stmt) : Prop :=
  statement.MembersWithin room.className room.Referable

@[simp] theorem own_ne_ident (room : Room) (property name : String) :
    room.own property ≠ .ident name :=
  path_ne_ident _ _ _

theorem resolves_own (referable : room.Referable property) : room.Resolves (room.own property) := by
  simp [own, Resolves, referable]

theorem resolves_fixed (fixed : property ∈ fixedMembers) : room.Resolves (room.own property) :=
  resolves_own (.fixed fixed)

theorem resolves_elsewhere {owner : String} (start : ¬ "Room".toList <+: owner.toList) :
    room.Resolves (.path owner property) := by
  simp [Resolves, ne_className start]

theorem resolves_hook (name : String) : room.StmtResolves (room.hook name) := by
  simp [hook, StmtResolves, customizationClass_ne_className]

theorem mem_memberDevices {device : Device} (member : device ∈ room.devices)
    (window : device.deviceClass ≠ .window) : device ∈ room.memberDevices :=
  List.mem_filter.mpr ⟨member, device.hasMembers_iff.mpr window⟩

/-- A device that is referred to by its name has this member, or is a stray frame. -/
theorem resolves_name {device : Device} (member : device ∈ room.devices)
    (reason : device.deviceClass = .window →
      ∃ capability ∈ [Capability.managedRegistry, .smokeDetector, .waterDetector],
        device.has capability = true) :
    room.Resolves (room.own device.name) := by
  refine resolves_own ?_
  by_cases window : device.deviceClass = .window
  · exact .stray (Or.inl ⟨device, member, window, Or.inr ⟨rfl, reason window⟩⟩)
  · exact .name (mem_memberDevices member window)

/-- The device is in the room, and a group could take it. -/
def Grouped (room : Room) (device : Device) : Prop :=
  device ∈ room.devices ∧ ∃ capability, capability ≠ .windowFrame ∧
    capability ≠ .managedRegistry ∧ device.has capability = true

theorem resolves_deviceRef {device : Device} (grouped : room.Grouped device) :
    room.Resolves (room.deviceRef device) := by
  obtain ⟨member, reason⟩ := grouped
  unfold deviceRef
  by_cases singleton : device.isSingleton = true
  · have window : device.deviceClass ≠ .window :=
      device.hasMembers_iff.mp (by simp [Device.hasMembers, singleton])
    have named : room.Resolves (room.own device.name) :=
      resolves_name member fun same => absurd same window
    simpa [singleton] using named
  · rw [if_neg singleton]
    refine resolves_own ?_
    by_cases window : device.deviceClass = .window
    · exact .stray (Or.inl ⟨device, member, window, Or.inl ⟨rfl, reason⟩⟩)
    · have bus : device.isBusAddressed = true :=
        device.isBusAddressed_iff.mpr
          ⟨device.hasMembers_iff.mpr window, Bool.eq_false_iff.mpr singleton⟩
      exact .slot (List.mem_filter.mpr ⟨member, bus⟩)

theorem resolves_deviceRefs {devices : List Device}
    (grouped : ∀ device ∈ devices, room.Grouped device) :
    room.Resolves (room.deviceRefs devices) := by
  simp only [Resolves, deviceRefs, membersWithin_array, List.forall_mem_map]
  exact fun device member => resolves_deviceRef (grouped device member)

/-! ## Groups -/

theorem has_of_mem_ambientHaving {enough : List Capability} {device : Device}
    (member : device ∈ ambientHaving room.devices enough) :
    device ∈ room.devices ∧ ∃ capability ∈ enough, device.has capability = true := by
  obtain ⟨inRoom, taken⟩ := List.mem_filter.mp member
  exact ⟨inRoom, List.any_eq_true.mp (Bool.and_eq_true_iff.mp taken).2⟩

theorem grouped_of_mem_ambientHaving {enough : List Capability} {device : Device}
    (member : device ∈ ambientHaving room.devices enough)
    (grouping : .windowFrame ∉ enough ∧ .managedRegistry ∉ enough) : room.Grouped device := by
  obtain ⟨inRoom, capability, inEnough, has⟩ := has_of_mem_ambientHaving member
  refine ⟨inRoom, capability, ?_, ?_, has⟩
  · exact fun same => grouping.1 (same ▸ inEnough)
  · exact fun same => grouping.2 (same ▸ inEnough)

theorem grouped_of_mem_mountedHaving {window : UInt32} {capability : Capability} {device : Device}
    (member : device ∈ mountedHaving room.devices window capability)
    (grouping : capability ≠ .windowFrame ∧ capability ≠ .managedRegistry) :
    room.Grouped device := by
  obtain ⟨inRoom, taken⟩ := List.mem_filter.mp member
  exact ⟨inRoom, capability, grouping.1, grouping.2, (Bool.and_eq_true_iff.mp taken).2⟩

theorem resolves_ambient {enough : List Capability}
    (grouping : .windowFrame ∉ enough ∧ .managedRegistry ∉ enough) :
    room.Resolves (room.deviceRefs (ambientHaving room.devices enough)) :=
  resolves_deviceRefs fun _ member => grouped_of_mem_ambientHaving member grouping

theorem resolves_mounted {window : UInt32} {capability : Capability}
    (grouping : capability ≠ .windowFrame ∧ capability ≠ .managedRegistry) :
    room.Resolves (room.deviceRefs (mountedHaving room.devices window capability)) :=
  resolves_deviceRefs fun _ member => grouped_of_mem_mountedHaving member grouping

theorem resolves_setGroup (kind : GroupKind) {arguments : List Expr}
    (resolves : ∀ argument ∈ arguments, room.Resolves argument) :
    room.StmtResolves (room.setGroup kind arguments) := by
  have set : room.Resolves (.path "groups" "set") := resolves_elsewhere (by decide)
  have key : room.Resolves (.path "GroupType" (groupKey kind)) := resolves_elsewhere (by decide)
  have name : room.Resolves (room.own "roomName") := resolves_fixed (by decide)
  simp only [StmtResolves, setGroup, Stmt.membersWithin_expr, membersWithin_call,
    List.forall_mem_cons, membersWithin_construct]
  exact ⟨set, key, ⟨name, resolves⟩, List.forall_mem_nil _⟩

/-- A group whose lists are ambient devices with capabilities, taken from a list that is known. -/
theorem resolves_ambientGroup (kind : GroupKind) (lists : List (List Capability))
    (grouping : ∀ enough ∈ lists, .windowFrame ∉ enough ∧ .managedRegistry ∉ enough) :
    room.StmtResolves (room.setGroup kind
      (lists.map fun enough => room.deviceRefs (ambientHaving room.devices enough))) := by
  refine resolves_setGroup kind (List.forall_mem_map.mpr fun enough member => ?_)
  exact resolves_ambient (grouping enough member)

theorem eq_of_mem_unlessEmpty {lists : List (List Device)} {group : α} {make : α → Stmt}
    {statement : Stmt} (member : statement ∈ (unlessEmpty lists group).toList.map make) :
    statement = make group := by
  unfold unlessEmpty at member
  split at member
  · contradiction
  · exact List.mem_singleton.mp member

theorem resolves_windowStmt {window : WindowAssembly} (holds : window.Matches room.devices) :
    room.StmtResolves (room.windowStmt window) := by
  have name : room.Resolves (room.own "roomName") := resolves_fixed (by decide)
  have handles : room.Resolves (room.deviceRefs window.handles) :=
    holds.handles ▸ resolves_mounted (by decide)
  have vibrations : room.Resolves (room.deviceRefs window.vibrations) :=
    holds.vibrations ▸ resolves_mounted (by decide)
  have contacts : room.Resolves (room.deviceRefs window.magnetContacts) :=
    holds.magnetContacts ▸ resolves_mounted (by decide)
  have motors : ∀ motor ∈ window.blindMotor.toList, room.Resolves (room.deviceRef motor) := by
    rw [holds.blindMotor]
    exact fun motor member => resolves_deviceRef (grouped_of_mem_mountedHaving member (by decide))
  simp only [StmtResolves, windowStmt, Stmt.membersWithin_const, membersWithin_construct,
    List.forall_mem_cons]
  refine ⟨name, handles, vibrations, ?_, contacts, membersWithin_bool _, List.forall_mem_nil _⟩
  cases motor : window.blindMotor with
  | none => exact membersWithin_ident _
  | some device => exact motors device (by simp [motor])

theorem resolves_groupStmts (holds : groups.Matches room.devices) (kind : GroupKind) :
    ∀ statement ∈ room.groupStmts groups kind, room.StmtResolves statement := by
  intro statement member
  have lists := holds.lists
  -- A group that is there has the lists that `Matches` names, so only their capabilities matter.
  cases kind with
  | window =>
      rcases List.mem_append.mp member with ofWindow | table
      · obtain ⟨window, inWindows, rfl⟩ := List.mem_map.mp ofWindow
        exact resolves_windowStmt (holds.windows.each window inWindows)
      · obtain rfl := List.mem_singleton.mp table
        exact resolves_setGroup _ (by simp [Resolves])
  | presence =>
      rw [groupStmts, lists.presence] at member
      obtain rfl := eq_of_mem_unlessEmpty member
      exact resolves_ambientGroup .presence [[.motion], [.presence]] (by decide)
  | light =>
      rw [groupStmts, lists.light] at member
      obtain rfl := eq_of_mem_unlessEmpty member
      exact resolves_ambientGroup .light [[.lamp, .dimmableLamp], [.plug], [.led], [.ledStrip]]
        (by decide)
  | buttons =>
      rw [groupStmts, lists.buttons] at member
      obtain rfl := eq_of_mem_unlessEmpty member
      exact resolves_ambientGroup .buttons [[.button]] (by decide)
  | smoke =>
      rw [groupStmts, lists.smoke] at member
      obtain rfl := eq_of_mem_unlessEmpty member
      exact resolves_ambientGroup .smoke [[.smokeDetector]] (by decide)
  | water =>
      rw [groupStmts, lists.water] at member
      obtain rfl := eq_of_mem_unlessEmpty member
      exact resolves_ambientGroup .water [[.waterDetector]] (by decide)
  | heating =>
      rw [groupStmts, lists.heating] at member
      obtain rfl := eq_of_mem_unlessEmpty member
      have conditioners :
          room.Resolves (room.deviceRefs (room.devices.filter (·.has .airConditioner))) := by
        refine resolves_deviceRefs fun device conditioner => ?_
        obtain ⟨inRoom, has⟩ := List.mem_filter.mp conditioner
        exact ⟨inRoom, .airConditioner, by decide, by decide, has⟩
      refine resolves_setGroup .heating ?_
      simp only [List.forall_mem_cons]
      exact ⟨resolves_ambient (by decide), resolves_ambient (by decide),
        resolves_ambient (by decide), conditioners, List.forall_mem_nil _⟩
  | speaker =>
      rw [groupStmts, lists.speakers] at member
      obtain rfl := eq_of_mem_unlessEmpty member
      exact resolves_ambientGroup .speaker [[.speaker]] (by decide)

theorem resolves_writeback (holds : groups.Matches room.devices) {device : Device}
    (member : device ∈ groups.roomNameWritebacks) :
    room.StmtResolves (room.writeback device) := by
  have named : room.Resolves (room.own device.name) := by
    rw [holds.writebacks] at member
    rcases List.mem_append.mp member with smoke | water
    · obtain ⟨inRoom, capability, inEnough, has⟩ := has_of_mem_ambientHaving smoke
      obtain rfl := List.mem_singleton.mp inEnough
      exact resolves_name inRoom fun _ => ⟨_, by decide, has⟩
    · obtain ⟨inRoom, capability, inEnough, has⟩ := has_of_mem_ambientHaving water
      obtain rfl := List.mem_singleton.mp inEnough
      exact resolves_name inRoom fun _ => ⟨_, by decide, has⟩
  have display : room.Resolves (room.own "displayName") := resolves_fixed (by decide)
  simp only [StmtResolves, writeback, Stmt.membersWithin_assign, membersWithin_member]
  exact ⟨⟨by simp, named⟩, display⟩

theorem resolves_groupsMethod (holds : groups.Matches room.devices) :
    ∀ statement ∈ (room.groupsMethod groups).body, room.StmtResolves statement := by
  simp only [groupsMethod, List.forall_mem_cons, List.forall_mem_append, List.forall_mem_flatMap,
    List.forall_mem_map]
  refine ⟨?_, ⟨fun kind _ => resolves_groupStmts holds kind, fun _ => resolves_writeback holds⟩,
    ?_, List.forall_mem_nil _⟩
  · simp [StmtResolves]
  · simp [StmtResolves]

/-! ## The other members, construction and registration -/

/-- No frame has settings, so all overrides are for devices with members. -/
def FramesPlain (room : Room) : Prop :=
  ∀ device ∈ room.devices, device.deviceClass = .window → device.plan.settings = none

theorem resolves_fields : ∀ field ∈ room.fields, ∀ init ∈ field.init, room.Resolves init := by
  have name : room.Resolves (room.own "roomName") := resolves_fixed (by decide)
  have initial : room.Resolves (room.own "InitialRoomSettings") := resolves_fixed (by decide)
  have fixed : ∀ field ∈ room.fixedFields, ∀ init ∈ field.init, room.Resolves init := by
    simp [fixedFields, publicField, name, initial]
  intro field member init isInit
  rcases List.mem_append.mp member with fixedField | ofDevice
  · exact fixed field fixedField init isInit
  · obtain ⟨device, _, found⟩ := List.mem_filterMap.mp ofDevice
    unfold deviceField? at found
    split at found
    · obtain rfl := Option.some.inj found
      obtain rfl := Option.some.inj isInit
      simp [name]
    · split at found
      · obtain rfl := Option.some.inj found
        obtain rfl := Option.some.inj isInit
        exact membersWithin_string _
      · contradiction

theorem resolves_accessors : ∀ getter ∈ room.accessors, room.Resolves getter.body := by
  refine List.forall_mem_map.mpr fun device member => ?_
  have slot : room.Resolves (room.own device.identifier) := resolves_own (.slot member)
  have get : room.Resolves (.path "Devices" "get") := resolves_elsewhere (by decide)
  simp only [accessor, Resolves, membersWithin_cast, membersWithin_call, List.forall_mem_singleton]
  exact ⟨get, slot⟩

theorem resolves_mutators :
    ∀ method ∈ room.mutators, ∀ statement ∈ method.body, room.StmtResolves statement := by
  refine List.forall_mem_map.mpr fun device member => ?_
  have slot : room.Resolves (room.own device.identifier) := resolves_own (.slot member)
  simp only [mutator, List.forall_mem_singleton, StmtResolves, Stmt.membersWithin_assign]
  exact ⟨slot, membersWithin_ident _⟩

theorem resolves_overrides (plain : room.FramesPlain) {device : Device}
    (member : device ∈ room.devices) :
    ∀ statement ∈ room.overrides device, room.StmtResolves statement := by
  unfold overrides
  cases settings : device.plan.settings with
  | none => exact List.forall_mem_nil _
  | some settings =>
      have named : room.Resolves (room.own device.name) := by
        refine resolves_name member fun window => ?_
        simp [plain device member window] at settings
      refine List.forall_mem_map.mpr fun entry _ => ?_
      simp only [StmtResolves, Stmt.membersWithin_assign, membersWithin_member]
      exact ⟨⟨by simp, by simp, named⟩, membersWithin_json _⟩

theorem resolves_setupMethod (plain : room.FramesPlain) :
    ∀ statement ∈ room.setupMethod.body, room.StmtResolves statement := by
  simp only [setupMethod, List.forall_mem_cons, List.forall_mem_append, List.forall_mem_flatMap]
  exact ⟨resolves_hook _, fun device member => resolves_overrides plain member, resolves_hook _,
    List.forall_mem_nil _⟩

theorem resolves_roomOverrides : ∀ statement ∈ room.roomOverrides, room.StmtResolves statement := by
  unfold roomOverrides
  cases room.settings with
  | none => exact List.forall_mem_nil _
  | some settings =>
      have own : room.Resolves (room.own "RoomSettings") := resolves_fixed (by decide)
      refine List.forall_mem_map.mpr fun entry _ => ?_
      simp only [StmtResolves, Stmt.membersWithin_assign, membersWithin_member]
      exact ⟨⟨by simp, own⟩, membersWithin_json _⟩

theorem resolves_construction : ∀ statement ∈ room.construction, room.StmtResolves statement := by
  have initial : room.Resolves (room.own "InitialRoomSettings") := resolves_fixed (by decide)
  have settings : room.Resolves (room.own "RoomSettings") := resolves_fixed (by decide)
  have object : room.Resolves (room.own "roomObject") := resolves_fixed (by decide)
  have build : room.Resolves (room.own "buildGroups") := resolves_fixed (by decide)
  have setup : room.Resolves (room.own "initialize") := resolves_fixed (by decide)
  have managed : ∀ device ∈ room.devices.filter (·.isManaged),
      room.Resolves (room.own device.name) := by
    intro device member
    obtain ⟨inRoom, has⟩ := List.mem_filter.mp member
    exact resolves_name inRoom fun _ => ⟨.managedRegistry, by decide, has⟩
  simp only [construction, List.forall_mem_append, List.forall_mem_map]
  refine ⟨⟨⟨resolves_roomOverrides, ?_⟩, ?_⟩, ?_⟩
  · simp [StmtResolves, build, initial, settings, object]
  · intro device member
    simp [StmtResolves, managed device member]
  · have hook : room.StmtResolves (room.hook "postSuperInitialize") := resolves_hook _
    simp [StmtResolves, setup, callSelf, hook]

/-- A room called "Service" has a class of the name of the runtime service. -/
theorem resolves_service : room.Resolves (.path "RoomService" "addInitialRoomSettings") := by
  simp only [Resolves, membersWithin_path, className_eq_service_iff]
  exact fun service => .stray (Or.inr ⟨service, rfl⟩)

theorem resolves_addDeviceStmt {device : Device} (member : device ∈ room.busDevices) :
    room.StmtResolves (room.addDeviceStmt device) := by
  have add : room.Resolves (.path "deviceAddingSettings" "addDevice") :=
    resolves_elsewhere (by decide)
  have type : room.Resolves (.path "DeviceType" device.type) := resolves_elsewhere (by decide)
  have mutator : room.Resolves (room.own device.mutator) := resolves_own (.mutator member)
  simp only [addDeviceStmt, StmtResolves, Stmt.membersWithin_expr, membersWithin_call,
    List.forall_mem_append, List.forall_mem_cons]
  refine ⟨add, ⟨type, mutator, membersWithin_integer _, List.forall_mem_nil _⟩, ?_⟩
  exact List.forall_mem_map.mpr fun name _ => membersWithin_string name

theorem resolves_trailing : ∀ statement ∈ room.trailing, room.StmtResolves statement := by
  have initial : room.Resolves (room.own "InitialRoomSettings") := resolves_fixed (by decide)
  have name : room.Resolves (room.own "roomName") := resolves_fixed (by decide)
  have adding : ∀ device ∈
      room.devices.filter fun device => device.isManaged && device.isBusAddressed,
      room.StmtResolves (room.addDeviceStmt device) := by
    intro device member
    obtain ⟨inRoom, managed⟩ := List.mem_filter.mp member
    exact resolves_addDeviceStmt
      (List.mem_filter.mpr ⟨inRoom, (Bool.and_eq_true_iff.mp managed).2⟩)
  unfold trailing
  rw [List.forall_mem_append]
  constructor
  · split
    · simp only [List.forall_mem_cons, List.forall_mem_append, List.forall_mem_map]
      refine ⟨?_, adding, ?_, List.forall_mem_nil _⟩
      · simp [StmtResolves, name]
      · simp [StmtResolves, initial]
    · exact List.forall_mem_nil _
  · have service : room.Resolves (.path "RoomService" "addInitialRoomSettings") := resolves_service
    simp [StmtResolves, service, initial]

theorem resolves_module (holds : groups.Matches room.devices) (plain : room.FramesPlain)
    {options : RenderOptions} (mentioned :
      (room.toModule groups options).Mentions (.path room.className property)) :
    room.Referable property := by
  refine Module.members_within ?_ mentioned
  simp only [toModule, List.forall_mem_cons, List.forall_mem_map]
  refine ⟨?_, fun statement member => resolves_trailing statement member⟩
  refine ClassDecl.members_within resolves_fields resolves_accessors ?_ ?_
  · simp only [classDecl, List.forall_mem_append, List.forall_mem_cons]
    exact ⟨resolves_mutators, resolves_setupMethod plain, resolves_groupsMethod holds,
      List.forall_mem_nil _⟩
  · intro body isBody
    obtain rfl := Option.some.inj isBody
    exact resolves_construction

/-- Construction hands every managed device to the cluster, with or without members. -/
theorem mentions_managed {device : Device} (member : device ∈ room.devices)
    (managed : device.isManaged = true) {options : RenderOptions} :
    (room.toModule groups options).Mentions (.path room.className device.name) := by
  let root : Expr :=
    .call (.member (.member .self "deviceCluster") "addByDeviceType") [room.own device.name]
  have statement : .expr root ∈ room.construction := by
    refine List.mem_append_left _ (List.mem_append_right _ (List.mem_map.mpr ⟨device, ?_, rfl⟩))
    exact List.mem_filter.mpr ⟨member, managed⟩
  refine ⟨.classDecl (room.classDecl groups), List.mem_cons_self .., root, ?_, ?_⟩
  · refine List.mem_append_right _ (List.mem_flatMap.mpr ⟨room.construction, ?_, ?_⟩)
    · exact List.mem_singleton_self _
    · exact List.mem_flatMap.mpr ⟨_, statement, List.mem_singleton_self _⟩
  · simp [root, Expr.subterms, subtermsOf, own, Expr.path]

end Room

theorem House.device_compiled {plan : HousePlan} {house : House}
    (compiled : House.compile plan = .ok house) {room : Room} (inHouse : room ∈ house.rooms)
    {device : Device} (inRoom : device ∈ room.devices) :
    ∃ owner devicePlan, Device.compile house.catalog owner devicePlan = .ok device := by
  have realizes := House.realizes_of_compile compiled
  obtain ⟨roomPlan, _, _, devices⟩ := exists_related_of_mem realizes.rooms inHouse
  obtain ⟨devicePlan, _, deviceCompiled, _⟩ := exists_related_of_mem devices inRoom
  exact ⟨_, devicePlan, deviceCompiled⟩

theorem Device.settings_eq_none_of_window {catalog : Catalog} {owner : String} {plan : DevicePlan}
    {device : Device} (compiled : Device.compile catalog owner plan = .ok device)
    (window : device.deviceClass = .window) : device.plan.settings = none := by
  obtain ⟨entry, _, accepted, rfl⟩ := Device.compile_eq_ok_iff.mp compiled
  have frame : entry.allCapabilities.contains .windowFrame = true := by
    rw [CatalogEntry.allCapabilities, Capabilities.contains_union,
      show entry.deviceClass = .window from window]
    exact Or.inl (by decide)
  cases settings : plan.settings with
  | none => rfl
  | some _ => exact absurd ⟨frame, by simp [settings]⟩ accepted

theorem House.framesPlain_of_compile {plan : HousePlan} {house : House}
    (compiled : House.compile plan = .ok house) {room : Room} (inHouse : room ∈ house.rooms) :
    room.FramesPlain := by
  intro device inRoom window
  obtain ⟨_, _, deviceCompiled⟩ := House.device_compiled compiled inHouse inRoom
  exact Device.settings_eq_none_of_window deviceCompiled window

/-- Whatever property of its class the planned module of a room refers to, the class declares it, or
it is a stray one. -/
theorem HousePlan.references_declared_or_stray {plan : HousePlan} {options : RenderOptions}
    {rooms : List String} {artifacts : List Artifact}
    (planned : plan.artifacts options = .ok (rooms, artifacts)) :
    ∃ house, House.compile plan = .ok house ∧ ∀ room ∈ house.rooms, ∃ groups,
      RoomGroups.ofRoom room = .ok groups ∧ room.moduleArtifact groups options ∈ artifacts ∧
      ∀ property, (room.toModule groups options).Mentions (.path room.className property) →
        property ∈ (room.classDecl groups).memberNames ∨ room.Stray property := by
  obtain ⟨house, compiled, housePlanned⟩ := HousePlan.artifacts_eq_ok planned
  refine ⟨house, compiled, fun room member => ?_⟩
  obtain ⟨groups, assembled, modulePlanned⟩ := House.module_planned housePlanned member
  have holds := RoomGroups.matches_of_ofRoom (House.consistent_of_compile compiled member) assembled
  have plain := House.framesPlain_of_compile compiled member
  refine ⟨groups, assembled, modulePlanned, fun property mentioned => ?_⟩
  exact (Room.resolves_module holds plain mentioned).declared_or_stray

/-- A frame without capabilities of its own is referred to by no name, whatever else is on its
window. -/
theorem HousePlan.references_declared_with_plain_frame :
    let detector : CustomType :=
      { id := "Melder", displayName := "Melder", className := "hmip",
        capabilities := [.smokeDetector, .waterDetector] }
    let devices : List DevicePlan :=
      [{ type := "Window", index := 0, windowId := some 1 },
        { type := "HmIpGriff", index := 0, windowId := some 1,
          settings := some (.ofMembers [("ton", .bool true)]) },
        { type := "Melder", index := 0, includeInGroup := true },
        { type := "OwnSonosDevice", index := 0, includeInGroup := true }]
    let buero : RoomPlan := { shortName := "Buero", longName := "Büro", floor := 1, devices }
    let plan : HousePlan := { customTypes := [detector], rooms := [buero] }
    ∃ house, House.compile plan = .ok house ∧ ∀ room ∈ house.rooms, ∃ groups,
      RoomGroups.ofRoom room = .ok groups ∧
      ∀ property, (room.toModule groups {}).Mentions (.path room.className property) →
        property ∈ (room.classDecl groups).memberNames := by
  intro detector devices buero plan
  have runs : (plan.artifacts {} >>= fun planned => House.compile plan >>= fun house =>
      .ok (planned.1, house.rooms.all fun room => room.shortName = "Buero" &&
        room.devices.all fun device =>
          device.deviceClass ≠ .window || device.entry.capabilities = .none)) =
      .ok (["Buero"], true) := by
    decide +kernel
  obtain ⟨_, planned, later⟩ := bind_eq_ok.mp runs
  obtain ⟨house, compiled, checked⟩ := bind_eq_ok.mp later
  have plain : ∀ room ∈ house.rooms, room.shortName = "Buero" ∧ ∀ device ∈ room.devices,
      device.deviceClass ≠ .window ∨ device.entry.capabilities = .none := by
    simpa using (Prod.mk.inj (Except.ok.inj checked)).2
  obtain ⟨_, same, references⟩ := HousePlan.references_declared_or_stray planned
  obtain rfl := Except.ok.inj (compiled.symm.trans same)
  refine ⟨house, compiled, fun room member => ?_⟩
  obtain ⟨groups, assembled, _, declared⟩ := references room member
  obtain ⟨name, frames⟩ := plain room member
  refine ⟨groups, assembled, fun property mentioned => ?_⟩
  rcases declared property mentioned with inClass | ⟨device, inRoom, stray⟩ | ⟨service, _⟩
  · exact inClass
  -- No frame of this room has a capability of its own, so none is stray.
  · obtain ⟨capability, own⟩ := stray.own_capability
    rcases frames device inRoom with noFrame | nothing
    · exact absurd stray.1 noFrame
    · simp [nothing] at own
  · simp [name] at service

/-- A frame of a managed type is handed to the cluster by a name that no member has. -/
theorem HousePlan.managed_frame_undeclared :
    let alarm : CustomType :=
      { id := "Fensteralarm", displayName := "Alarm", className := "window",
        capabilities := [.managedRegistry] }
    let buero : RoomPlan :=
      { shortName := "Buero", longName := "Büro", floor := 1,
        devices := [{ type := "Fensteralarm", index := 0 }] }
    let plan : HousePlan := { customTypes := [alarm], rooms := [buero] }
    ∃ artifacts house room groups,
      plan.artifacts {} = .ok (["Buero"], artifacts) ∧
      House.compile plan = .ok house ∧ room ∈ house.rooms ∧ RoomGroups.ofRoom room = .ok groups ∧
      (room.toModule groups {}).Mentions (.path room.className "Alarm") ∧
      "Alarm" ∉ (room.classDecl groups).memberNames := by
  intro alarm buero plan
  have runs : (plan.artifacts {} >>= fun planned => House.compile plan >>= fun house =>
      house.rooms.mapM fun room => RoomGroups.ofRoom room >>= fun groups =>
        .ok (planned.1, room.devices.any (fun device => device.name = "Alarm" && device.isManaged),
          decide ("Alarm" ∈ (room.classDecl groups).memberNames))) =
      .ok [(["Buero"], true, false)] := by
    decide +kernel
  obtain ⟨planned, plannedOk, later⟩ := bind_eq_ok.mp runs
  obtain ⟨house, compiled, perRoom⟩ := bind_eq_ok.mp later
  obtain ⟨room, member, found⟩ :=
    exists_related_of_mem (mapM_eq_ok_iff.mp perRoom) (List.mem_singleton_self _)
  obtain ⟨groups, assembled, checked⟩ := bind_eq_ok.mp found
  obtain ⟨names, managed, undeclared⟩ := by
    simpa only [Except.ok.injEq, Prod.mk.injEq] using checked
  obtain ⟨device, inRoom, called⟩ := List.any_eq_true.mp managed
  obtain ⟨name, isManaged⟩ : device.name = "Alarm" ∧ device.isManaged = true := by
    simpa using called
  have mentioned : (room.toModule groups {}).Mentions (.path room.className device.name) :=
    Room.mentions_managed inRoom isManaged
  rw [name] at mentioned
  exact ⟨planned.2, house, room, groups, names ▸ plannedOk, compiled, member, assembled,
    mentioned, of_decide_eq_false undeclared⟩

end Homeplan
