import Homeplan.Proofs.Artifact.DeviceLookup
import Homeplan.Proofs.Artifact.References

namespace Homeplan

open TypeScript

/-! Settings overrides of devices.

The set-up method of a room assigns the overrides of one device after the other, each through a
member that the class declares for its device.  No assignment undoes another one, since devices with
members differ in their names.  An assignment reaches its device if nothing else in the class has
the name of the device or of its slot, and otherwise the method does not get past it.
-/

/-- What the plan of a device sets, by the keys of the settings. -/
def Device.ownOverrides (device : Device) : SortedMap String Json :=
  match device.plan.settings with
  | none => {}
  | some settings => ⟨settings.members, settings.sorted⟩

namespace Room

/-! ## Rooms that devices are compiled into -/

/-- The room after lists of plans were compiled into it one by one, each with a catalog of its own.
A list that stops at a defect leaves the devices before it in the room. -/
def afterCompilations (room : Room) (runs : List (Catalog × List DevicePlan)) : Room :=
  runs.foldl (fun room run => (room.compileDevices run.1 run.2).1) room

/-- What holds of a room and is kept by every device that compiles holds after all compilations. -/
theorem afterCompilations_induction {motive : Room → Prop} {room : Room} (start : motive room)
    (step : ∀ {catalog room plan next}, motive room →
      room.compileDevice catalog plan = .ok next → motive next)
    (runs : List (Catalog × List DevicePlan)) : motive (room.afterCompilations runs) := by
  have compiled (catalog : Catalog) (plans : List DevicePlan) {room : Room} (holds : motive room) :
      motive (room.compileDevices catalog plans).1 := by
    induction plans generalizing room with
    | nil => exact holds
    | cons plan rest ih =>
        rw [compileDevices]
        cases first : room.compileDevice catalog plan with
        | ok next => exact ih (step holds first)
        | error defect => exact holds
  induction runs generalizing room with
  | nil => exact start
  | cons run rest ih => exact ih (compiled run.1 run.2 start)

theorem Consistent.afterCompilations {room : Room} (consistent : room.Consistent)
    (runs : List (Catalog × List DevicePlan)) : (room.afterCompilations runs).Consistent :=
  afterCompilations_induction consistent (fun holds added => holds.compileDevice added) runs

theorem FramesPlain.afterCompilations {room : Room} (plain : room.FramesPlain)
    (runs : List (Catalog × List DevicePlan)) : (room.afterCompilations runs).FramesPlain := by
  refine afterCompilations_induction plain ?_ runs
  intro catalog room plan next holds added
  obtain ⟨device, compiled, inserted⟩ := bind_eq_ok.mp added
  obtain ⟨_, _, _, rfl⟩ := addDevice_eq_ok_iff.mp inserted
  intro other member window
  rcases List.mem_append.mp member with earlier | last
  · exact holds other earlier window
  · obtain rfl := List.mem_singleton.mp last
    exact Device.settings_eq_none_of_window compiled window

theorem framesPlain_of_ofPlan {plan : RoomPlan} {room : Room}
    (accepted : Room.ofPlan plan = .ok room) : room.FramesPlain := by
  obtain ⟨_, rfl⟩ := ofPlan_eq_ok_iff.mp accepted
  exact fun device member => absurd member List.not_mem_nil

/-! ## What the assignments do -/

/-- A value for one setting of what a member of the class holds. -/
structure Override where
  member : String
  key : String
  value : Json

/-- The override that a statement assigns through a member of a class. -/
def override? (owner : String) : Stmt → Option Override
  | .assign (.member (.member (.member (.ident object) member) "settings") key) (.json value) =>
      if object = owner then some ⟨member, key, value⟩ else none
  | _ => none

/-- The overrides that the set-up method assigns, in order. -/
def assignedOverrides (room : Room) : List Override :=
  room.setupMethod.body.filterMap (override? room.className)

/-- The class declares a member for the device itself, under the name of the device: the accessor
of a bus-addressed one, and of a singleton the slot that holds it. -/
def DeclaresMember (room : Room) (decl : ClassDecl) (device : Device) : Prop :=
  (device.isBusAddressed = true ∧ room.accessor device ∈ decl.getters ∧
    (room.accessor device).name = device.name) ∨
  (device.isSingleton = true ∧ ∃ field ∈ decl.fields, room.deviceField? device = some field ∧
    field.name = device.name)

abbrev AllSettings := Device → SortedMap String Json

/-- Assigns an override to the device that the member leads to, if there is one. -/
def assignOverride? (room : Room) (decl : ClassDecl) (given : AllSettings) (change : Override) :
    Option AllSettings :=
  (room.reached? decl change.member).map fun device =>
    Function.update given device ((given device).insert change.key change.value)

/-- The settings of all devices after the assignments of the set-up method.  There are none if an
assignment leads to no device. -/
def settingsAfterSetup? (room : Room) (decl : ClassDecl) (given : AllSettings) :
    Option AllSettings :=
  room.assignedOverrides.foldlM (room.assignOverride? decl) given

def changesOf (device : Device) : List Override :=
  device.ownOverrides.entries.map fun (key, value) => ⟨device.name, key, value⟩

variable {room : Room} {device : Device}

theorem overrides_eq_map (room : Room) (device : Device) :
    room.overrides device = device.ownOverrides.entries.map fun (key, value) =>
      .assign (.member (.member (room.own device.name) "settings") key) (.json value) := by
  unfold overrides Device.ownOverrides
  cases device.plan.settings <;> rfl

theorem filterMap_overrides (room : Room) (device : Device) :
    (room.overrides device).filterMap (override? room.className) = changesOf device := by
  rw [overrides_eq_map, List.filterMap_map, changesOf, ← List.filterMap_eq_map]
  apply List.filterMap_congr
  intro entry _
  simp [override?, own, Expr.path]

theorem assignedOverrides_eq (room : Room) :
    room.assignedOverrides = room.devices.flatMap changesOf := by
  have hooks (name : String) : override? room.className (room.hook name) = none := rfl
  simp only [assignedOverrides, setupMethod, List.filterMap_cons, hooks, List.filterMap_append,
    List.filterMap_nil, List.append_nil, List.filterMap_flatMap, filterMap_overrides]

/-- A device with overrides is no frame, so it has members. -/
theorem FramesPlain.hasMembers (plain : room.FramesPlain) (member : device ∈ room.devices)
    (nonempty : device.ownOverrides.entries ≠ []) : device.hasMembers = true := by
  rw [Device.hasMembers_iff]
  intro window
  apply nonempty
  rw [Device.ownOverrides, plain device member window]
  rfl

theorem FramesPlain.mem_memberDevices (plain : room.FramesPlain) (member : device ∈ room.devices)
    (nonempty : device.ownOverrides.entries ≠ []) : device ∈ room.memberDevices :=
  List.mem_filter.mpr ⟨member, plain.hasMembers member nonempty⟩

theorem mem_changesOf {change : Override} : change ∈ changesOf device ↔
    change.member = device.name ∧ (change.key, change.value) ∈ device.ownOverrides.entries := by
  obtain ⟨member, key, value⟩ := change
  simp [changesOf, eq_comm, and_comm]

/-! ## Every device gets its own overrides -/

theorem Consistent.devices_nodup (consistent : room.Consistent) : room.devices.Nodup := by
  apply consistent.devices_distinct.imp
  intro left right apart same
  exact apart ⟨congrArg Device.type same, congrArg Device.index same⟩

/-- The settings of a device after its own overrides. -/
def overridden (device : Device) (settings : SortedMap String Json) : SortedMap String Json :=
  device.ownOverrides.entries.foldl (fun settings entry => settings.insert entry.1 entry.2) settings

theorem get?_overridden (settings : SortedMap String Json) (key : String) :
    (overridden device settings).get? key =
      (device.ownOverrides.get? key).or (settings.get? key) :=
  SortedMap.get?_foldl_insert device.ownOverrides.sorted settings key

/-- The assignments of one device change its settings alone. -/
theorem foldlM_changesOf {decl : ClassDecl} (leads : device.ownOverrides.entries ≠ [] →
    room.reached? decl device.name = some device) (given : AllSettings) :
    (changesOf device).foldlM (room.assignOverride? decl) given =
      some (Function.update given device (overridden device (given device))) := by
  unfold changesOf overridden
  generalize device.ownOverrides.entries = entries at leads ⊢
  induction entries generalizing given with
  | nil => simp
  | cons entry rest ih =>
      have reached := leads (List.cons_ne_nil _ _)
      have first : room.assignOverride? decl given ⟨device.name, entry.1, entry.2⟩ =
          some (Function.update given device ((given device).insert entry.1 entry.2)) := by
        rw [assignOverride?, reached]
        rfl
      rw [List.map_cons, List.foldlM_cons, first, Option.bind_eq_bind, Option.bind_some,
        ih _ fun _ => reached, List.foldl_cons, Function.update_self, Function.update_idem]

/-- Different devices do not meet in their assignments, so each gets its own. -/
theorem foldlM_flatMap_changesOf {decl : ClassDecl} {devices : List Device}
    (distinct : devices.Nodup)
    (leads : ∀ device ∈ devices, device.ownOverrides.entries ≠ [] →
      room.reached? decl device.name = some device) (given : AllSettings) :
    (devices.flatMap changesOf).foldlM (room.assignOverride? decl) given =
      some fun device => if device ∈ devices then overridden device (given device)
        else given device := by
  induction devices generalizing given with
  | nil => simp
  | cons first rest ih =>
      obtain ⟨absent, distinctRest⟩ := List.nodup_cons.mp distinct
      obtain ⟨firstLeads, restLeads⟩ := List.forall_mem_cons.mp leads
      rw [List.flatMap_cons, List.foldlM_append, foldlM_changesOf firstLeads, Option.bind_eq_bind,
        Option.bind_some, ih distinctRest restLeads]
      congr 1
      funext device
      by_cases isFirst : device = first
      · subst isFirst
        simp [absent]
      · simp [isFirst]

/-- An assignment that leads to no device ends the run, whatever was assigned before it. -/
theorem foldlM_assignOverride?_eq_none {decl : ClassDecl} {changes : List Override}
    {change : Override} (assigned : change ∈ changes)
    (lost : room.reached? decl change.member = none) (given : AllSettings) :
    changes.foldlM (room.assignOverride? decl) given = none := by
  induction changes generalizing given with
  | nil => contradiction
  | cons first rest ih =>
      rw [List.foldlM_cons]
      rcases List.mem_cons.mp assigned with rfl | later
      · rw [assignOverride?, lost]
        rfl
      · cases room.assignOverride? decl given first with
        | none => rfl
        | some after => exact ih later after

theorem targets_nodup (consistent : room.Consistent) (plain : room.FramesPlain) :
    (room.assignedOverrides.map fun change => (change.member, change.key)).Nodup := by
  rw [assignedOverrides_eq, List.map_flatMap, List.nodup_flatMap]
  constructor
  · intro device _
    have keys : device.ownOverrides.keys.Nodup := device.ownOverrides.keys_nodup
    have targets : (changesOf device).map (fun change => (change.member, change.key)) =
        device.ownOverrides.keys.map (device.name, ·) := by
      simp [changesOf, SortedMap.keys]
    rw [targets]
    exact keys.map fun _ _ same => (Prod.mk.inj same).2
  · apply consistent.devices_nodup.imp_of_mem
    intro left right leftMember rightMember different target ofLeft ofRight
    obtain ⟨leftChange, leftAssigned, rfl⟩ := List.mem_map.mp ofLeft
    obtain ⟨rightChange, rightAssigned, same⟩ := List.mem_map.mp ofRight
    obtain ⟨leftNamed, leftEntry⟩ := mem_changesOf.mp leftAssigned
    obtain ⟨rightNamed, rightEntry⟩ := mem_changesOf.mp rightAssigned
    have leftMembers := plain.hasMembers leftMember (List.ne_nil_of_mem leftEntry)
    have rightMembers := plain.hasMembers rightMember (List.ne_nil_of_mem rightEntry)
    have sameName : left.name = right.name := by
      rw [← leftNamed, ← rightNamed, (Prod.mk.inj same).1]
    exact different (consistent.device_eq_of_name leftMember leftMembers rightMember rightMembers
      sameName)

theorem declaresMember (groups : RoomGroups) (member : device ∈ room.devices)
    (members : device.hasMembers = true) : room.DeclaresMember (room.classDecl groups) device := by
  cases singleton : device.isSingleton with
  | true =>
      obtain ⟨field, own, named, _⟩ := deviceField?_of_singleton room singleton
      exact Or.inr ⟨singleton, field, deviceField_declared groups member own, own, named⟩
  | false =>
      have bus := device.isBusAddressed_iff.mpr ⟨members, singleton⟩
      exact Or.inl ⟨bus, List.mem_map_of_mem (List.mem_filter.mpr ⟨member, bus⟩), rfl⟩

/-- Every device of a room has its own overrides over what it was given, and nothing else has
changed. -/
structure Delivered (room : Room) (given after : AllSettings) : Prop where
  over_given : ∀ device ∈ room.devices, ∀ key,
    (after device).get? key = (device.ownOverrides.get? key).or ((given device).get? key)
  own_map : ∀ device ∈ room.devices, given device = {} → after device = device.ownOverrides
  others_kept : ∀ device, device ∉ room.devices → after device = given device

/-- Whatever settings devices come with, the set-up method delivers their overrides. -/
def Delivers (room : Room) (groups : RoomGroups) : Prop :=
  ∀ given, ∃ after, room.settingsAfterSetup? (room.classDecl groups) given = some after ∧
    room.Delivered given after

/-- The set-up method assigns the overrides of the devices of its room, and they are delivered if
and only if the devices with overrides keep their names. -/
structure OverridesAssigned (room : Room) (groups : RoomGroups) : Prop where
  /-- The assignments stand between the hooks, device by device, by increasing key. -/
  body_eq : room.setupMethod.body = room.hook "preInitialize" ::
    ((room.devices.flatMap fun device => device.ownOverrides.entries.map fun (key, value) =>
      .assign (.member (.member (room.own device.name) "settings") key) (.json value)) ++
    [room.hook "postInitialize"])
  keys_increase : ∀ device ∈ room.devices, KeysIncrease device.ownOverrides.entries
  through_own_member : ∀ device ∈ room.devices, device.ownOverrides.entries ≠ [] →
    room.DeclaresMember (room.classDecl groups) device
  targets_distinct :
    (room.assignedOverrides.map fun change => (change.member, change.key)).Nodup
  reached : ∀ device ∈ room.memberDevices,
    room.reached? (room.classDecl groups) device.name =
      if room.NameKept device then some device else none
  delivers_iff : room.Delivers groups ↔
    ∀ device ∈ room.devices, device.ownOverrides.entries ≠ [] → room.NameKept device
  delivers_of_apart : room.NamesApart → room.Delivers groups

section Delivery

variable {groups : RoomGroups} (consistent : room.Consistent) (plain : room.FramesPlain)
include consistent plain

theorem delivers_of_kept (kept : ∀ device ∈ room.devices,
    device.ownOverrides.entries ≠ [] → room.NameKept device) : room.Delivers groups := by
  intro given
  have leads : ∀ device ∈ room.devices, device.ownOverrides.entries ≠ [] →
      room.reached? (room.classDecl groups) device.name = some device := by
    intro device inRoom nonempty
    rw [consistent.reached?_name (plain.mem_memberDevices inRoom nonempty),
      if_pos (kept device inRoom nonempty)]
  have run := foldlM_flatMap_changesOf consistent.devices_nodup leads given
  rw [← assignedOverrides_eq] at run
  refine ⟨_, run, ?_⟩
  constructor
  case over_given =>
    intro device inRoom key
    simp only [inRoom, if_true]
    exact get?_overridden _ key
  case own_map =>
    intro device inRoom nothing
    apply SortedMap.eq_of_get?
    intro key
    simp only [inRoom, if_true, nothing, get?_overridden]
    exact Option.or_none
  case others_kept =>
    intro device absent
    simp only [absent, if_false]

theorem not_delivers_of_taken {device : Device} (inRoom : device ∈ room.devices)
    (nonempty : device.ownOverrides.entries ≠ []) (taken : ¬ room.NameKept device)
    (given : AllSettings) : room.settingsAfterSetup? (room.classDecl groups) given = none := by
  have lost : room.reached? (room.classDecl groups) device.name = none := by
    rw [consistent.reached?_name (plain.mem_memberDevices inRoom nonempty), if_neg taken]
  obtain ⟨entry, listed⟩ := List.exists_mem_of_ne_nil _ nonempty
  have assigned : ⟨device.name, entry.1, entry.2⟩ ∈ room.assignedOverrides := by
    rw [assignedOverrides_eq]
    exact List.mem_flatMap.mpr ⟨device, inRoom, List.mem_map.mpr ⟨entry, listed, rfl⟩⟩
  exact foldlM_assignOverride?_eq_none assigned lost given

end Delivery

/-- However devices are compiled into a room, its set-up method assigns their overrides. -/
theorem overrides_delivered_iff_kept {plan : RoomPlan} {fresh : Room}
    (accepted : Room.ofPlan plan = .ok fresh) (runs : List (Catalog × List DevicePlan))
    (groups : RoomGroups) : (fresh.afterCompilations runs).OverridesAssigned groups := by
  have consistent := (Consistent.ofPlan accepted).afterCompilations runs
  have plain := (framesPlain_of_ofPlan accepted).afterCompilations runs
  constructor
  case body_eq => rw [setupMethod, funext (overrides_eq_map _)]
  case keys_increase => exact fun device _ => device.ownOverrides.sorted
  case through_own_member =>
    exact fun device member nonempty =>
      declaresMember groups member (plain.hasMembers member nonempty)
  case targets_distinct => exact targets_nodup consistent plain
  case reached => exact fun device member => consistent.reached?_name member
  case delivers_iff =>
    refine ⟨fun delivers device inRoom nonempty => ?_, delivers_of_kept consistent plain⟩
    by_contra taken
    obtain ⟨_, done, _⟩ := delivers fun _ => {}
    rw [not_delivers_of_taken consistent plain inRoom nonempty taken] at done
    contradiction
  case delivers_of_apart =>
    intro apart
    refine delivers_of_kept consistent plain fun device inRoom nonempty => ?_
    exact namesApart_iff_kept.mp apart device (plain.mem_memberDevices inRoom nonempty)

/-- A speaker and a handle with settings of the same key, in front of a frame that is refused.  The
name of the speaker is spelled like that of a slot, but no device of the room has such a slot. -/
theorem overrides_delivered_before_refused_frame :
    let plan : RoomPlan := { shortName := "Bad", longName := "Bad", floor := 1 }
    let mounted : List DevicePlan :=
      [{ type := "OwnSonosDevice", index := 0, customName := some "idBox",
          settings := some (.ofMembers [("ton", .bool true), ("bass", .bool false)]) },
        { type := "HmIpGriff", index := 0, settings := some (.ofMembers [("ton", .bool false)]) }]
    let frames : List DevicePlan :=
      [{ type := "Window", index := 0, settings := some (.ofMembers [("ton", .null)]) }]
    let room := (vacant plan).afterCompilations [(.builtin, mounted), (.builtin, frames)]
    ∃ groups, RoomGroups.ofRoom room = .ok groups ∧ room.OverridesAssigned groups ∧
      room.Delivers groups ∧
      room.assignedOverrides.map (fun change => (change.member, change.key)) =
        [("idBox", "bass"), ("idBox", "ton"), ("Griff", "ton")] := by
  intro plan mounted frames room
  let groups : RoomGroups := ⟨[], none, none, none, none, none, none, none, []⟩
  have accepted : Room.ofPlan plan = .ok (vacant plan) := by decide +kernel
  have runs : room.NamesApart ∧ RoomGroups.ofRoom room = .ok groups ∧
      room.assignedOverrides.map (fun change => (change.member, change.key)) =
        [("idBox", "bass"), ("idBox", "ton"), ("Griff", "ton")] := by
    decide +kernel
  obtain ⟨apart, assembled, targets⟩ := runs
  have assigned : room.OverridesAssigned groups := overrides_delivered_iff_kept accepted _ groups
  exact ⟨groups, assembled, assigned, assigned.delivers_of_apart apart, targets⟩

/-- The overrides of a device that is called like the slot of another one are not delivered. -/
theorem override_lost_at_slot_of_other_device :
    let plan : RoomPlan := { shortName := "Buero", longName := "Büro", floor := 1 }
    let mounted : List DevicePlan :=
      [{ type := "HmIpTaster", index := 0 },
        { type := "HmIpWippe", index := 0, customName := some "idTaster",
          settings := some (.ofMembers [("a", .integer 1)]) }]
    let room := (vacant plan).afterCompilations [(.builtin, mounted)]
    Room.ofPlan plan = .ok (vacant plan) ∧ room.devices.map (·.name) = ["Taster", "idTaster"] ∧
      room.assignedOverrides.map (·.member) = ["idTaster"] ∧
      ∃ groups, RoomGroups.ofRoom room = .ok groups ∧
        (room.classDecl groups).memberNames.count "idTaster" = 2 ∧
        ∀ given, room.settingsAfterSetup? (room.classDecl groups) given = none := by
  intro plan mounted room
  let groups : RoomGroups := ⟨[], none, none, none, none, none, none, none, []⟩
  have runs : room.devices.map (·.name) = ["Taster", "idTaster"] ∧
      room.assignedOverrides.map (·.member) = ["idTaster"] ∧
      RoomGroups.ofRoom room = .ok groups ∧
      (room.classDecl groups).memberNames.count "idTaster" = 2 ∧
      room.reached? (room.classDecl groups) "idTaster" = none := by
    decide +kernel
  obtain ⟨names, assigned, assembled, twice, lost⟩ := runs
  refine ⟨by decide +kernel, names, assigned, groups, assembled, twice, fun given => ?_⟩
  obtain ⟨change, isAssigned, same⟩ := List.mem_map.mp
    (assigned ▸ List.mem_singleton_self "idTaster" : "idTaster" ∈ room.assignedOverrides.map _)
  exact foldlM_assignOverride?_eq_none isAssigned (same ▸ lost) given

end Room

end Homeplan
