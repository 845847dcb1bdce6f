import Homeplan.Proofs.Artifact.Overrides

namespace Homeplan

/-! Slots, accessors and mutators of devices.

A bus-addressed device is looked up by the identifier in its slot: its accessor reads the slot and
its mutator writes it.  Slots of different devices have different names, so no mutator reaches what
the accessor of another device looks up, however many calls are made and in whatever order.
-/

namespace TypeScript

/-! ## What accessors and mutators do -/

/-- The strings that static members of a class hold. -/
abbrev Statics := String → Option String

/-- The string that an expression stands for in a class, with the values of parameters. -/
def Expr.valueIn (owner : String) (parameters : String → Option String) (statics : Statics) :
    Expr → Option String
  | .string value => some value
  | .ident name => parameters name
  | .member (.ident object) property => if object = owner then statics property else none
  | _ => none

/-- The static members after a statement, unless it does more than assign one of them. -/
def Stmt.run? (owner : String) (parameters : String → Option String) (statics : Statics) :
    Stmt → Option Statics
  | .assign (.member (.ident object) property) value =>
      if object = owner then
        some (Function.update statics property (value.valueIn owner parameters statics))
      else none
  | _ => none

/-- The static members after a call of a method with the given arguments. -/
def Method.call? (owner : String) (method : Method) (arguments : List String) (statics : Statics) :
    Option Statics :=
  let parameters := fun name => ((method.parameters.map (·.1)).zip arguments).lookup name
  method.body.foldlM (Stmt.run? owner parameters) statics

/-- The identifier with which a getter looks up a device. -/
def Getter.key? (owner : String) (getter : Getter) (statics : Statics) : Option String :=
  match getter.body with
  | .cast (.call (.member (.ident "Devices") "get") [key]) _ =>
      key.valueIn owner (fun _ => none) statics
  | _ => none

end TypeScript

open TypeScript

/-- The members of a class that are there for one device. -/
structure Share where
  slots : List Field
  accessors : List Getter
  mutators : List Method

/-- A bus-addressed device has a hidden slot that its accessor reads and its mutator writes, a
singleton has an open slot alone, and a window frame has nothing. -/
inductive Share.Fits (owner : String) (device : Device) : Share → Prop
  | bus (slot : Field) (accessor : Getter) (mutator : Method)
      (addressed : device.isBusAddressed = true)
      (hidden : slot.visibility = .privateMember)
      (slotName : slot.name = device.identifier)
      (accessorName : accessor.name = device.name)
      (mutatorName : mutator.name = device.mutator)
      (reads : ∀ statics, accessor.key? owner statics = statics slot.name)
      (writes : ∀ value statics, mutator.call? owner [value] statics =
        some (Function.update statics slot.name (some value))) :
      Fits owner device ⟨[slot], [accessor], [mutator]⟩
  | singleton (slot : Field)
      (singleton : device.isSingleton = true)
      (opened : slot.visibility = .publicMember)
      (slotName : slot.name = device.name) :
      Fits owner device ⟨[slot], [], []⟩
  | frame (frame : device.deviceClass = .window) : Fits owner device ⟨[], [], []⟩

namespace Room

def share (room : Room) (device : Device) : Share where
  slots := (room.deviceField? device).toList
  accessors := if device.isBusAddressed then [room.accessor device] else []
  mutators := if device.isBusAddressed then [room.mutator device] else []

def keyOf (room : Room) (statics : Statics) (device : Device) : Option String :=
  (room.accessor device).key? room.className statics

def callMutator? (room : Room) (statics : Statics) (call : Device × String) : Option Statics :=
  (room.mutator call.1).call? room.className [call.2] statics

variable {room : Room}

theorem keyOf_eq (statics : Statics) (device : Device) :
    room.keyOf statics device = statics device.identifier := by
  simp [keyOf, Getter.key?, accessor, own, Expr.path, Expr.valueIn]

theorem callMutator?_eq (statics : Statics) (call : Device × String) :
    room.callMutator? statics call =
      some (Function.update statics call.1.identifier (some call.2)) := by
  simp [callMutator?, Method.call?, mutator, own, Expr.path, Stmt.run?, Expr.valueIn]

theorem share_fits (device : Device) : (room.share device).Fits room.className device := by
  cases bus : device.isBusAddressed with
  | true =>
      have notSingleton := (device.isBusAddressed_iff.mp bus).2
      have members : room.share device =
          ⟨[⟨.privateMember, device.identifier, "string",
              some (.string (device.plan.address.getD ""))⟩],
            [room.accessor device], [room.mutator device]⟩ := by
        simp [share, deviceField?, bus, notSingleton]
      rw [members]
      exact .bus _ _ _ bus rfl rfl rfl rfl (fun statics => keyOf_eq statics device)
        (fun value statics => callMutator?_eq statics (device, value))
  | false =>
      cases singleton : device.isSingleton with
      | true =>
          have members : ∃ slot, room.share device = ⟨[slot], [], []⟩ ∧
              slot.visibility = .publicMember ∧ slot.name = device.name := by
            simp [share, deviceField?, publicField, bus, singleton]
          obtain ⟨slot, members, opened, named⟩ := members
          rw [members]
          exact .singleton slot singleton opened named
      | false =>
          have frame : device.deviceClass = .window := by
            by_contra other
            have members := device.hasMembers_iff.mpr other
            simp [Device.hasMembers, bus, singleton] at members
          have members : room.share device = ⟨[], [], []⟩ := by
            simp [share, deviceField?, bus, singleton]
          rw [members]
          exact .frame frame

/-! ## Calls of mutators -/

/-- The identifier that a device was last given, if it was given one. -/
def lastGiven? (device : Device) (calls : List (Device × String)) : Option String :=
  ((calls.filter (·.1 = device)).map (·.2)).getLast?

/-- Whatever the mutator of one device is given, the accessor of the other one looks up the same as
before. -/
def Unaffected (room : Room) (called other : Device) : Prop :=
  ∀ value statics, ∃ after, room.callMutator? statics (called, value) = some after ∧
    room.keyOf after other = room.keyOf statics other

theorem lastGiven?_cons (device : Device) (call : Device × String)
    (rest : List (Device × String)) : lastGiven? device (call :: rest) =
      (lastGiven? device rest).or (if call.1 = device then some call.2 else none) := by
  by_cases own : call.1 = device
  · have given : ((call :: rest).filter (·.1 = device)).map (·.2) =
        call.2 :: (rest.filter (·.1 = device)).map (·.2) := by simp [own]
    rw [lastGiven?, given, List.getLast?_cons, ← lastGiven?, if_pos own]
    cases lastGiven? device rest <;> rfl
  · simp [lastGiven?, own]

theorem Consistent.eq_of_bus_name (consistent : room.Consistent) {left right : Device}
    (leftBus : left ∈ room.busDevices) (rightBus : right ∈ room.busDevices)
    (same : left.name = right.name) : left = right := by
  obtain ⟨leftInRoom, leftAddressed⟩ := List.mem_filter.mp leftBus
  obtain ⟨rightInRoom, rightAddressed⟩ := List.mem_filter.mp rightBus
  exact consistent.device_eq_of_name leftInRoom (Device.hasMembers_of_isBusAddressed leftAddressed)
    rightInRoom (Device.hasMembers_of_isBusAddressed rightAddressed) same

theorem Consistent.keyOf_after_call (consistent : room.Consistent) {called device : Device}
    (calledBus : called ∈ room.busDevices) (deviceBus : device ∈ room.busDevices)
    (statics : Statics) (value : String) :
    room.keyOf (Function.update statics called.identifier (some value)) device =
      if called = device then some value else room.keyOf statics device := by
  rw [keyOf_eq, keyOf_eq]
  by_cases own : called = device
  · simp [own]
  · have apart : device.identifier ≠ called.identifier := fun same =>
      own (consistent.eq_of_bus_name calledBus deviceBus (Device.identifier_eq_iff.mp same.symm))
    simp [own, Function.update_of_ne apart]

theorem Consistent.unaffected (consistent : room.Consistent) {called other : Device}
    (calledBus : called ∈ room.busDevices) (otherBus : other ∈ room.busDevices)
    (different : called ≠ other) : room.Unaffected called other := by
  intro value statics
  refine ⟨_, callMutator?_eq statics (called, value), ?_⟩
  rw [consistent.keyOf_after_call calledBus otherBus, if_neg different]

theorem Consistent.keyOf_after_calls (consistent : room.Consistent)
    (calls : List (Device × String)) (ofBus : ∀ call ∈ calls, call.1 ∈ room.busDevices)
    (statics : Statics) : ∃ after, calls.foldlM room.callMutator? statics = some after ∧
      ∀ device ∈ room.busDevices,
        room.keyOf after device = (lastGiven? device calls).or (room.keyOf statics device) := by
  -- The first call is made first, so whatever the others give to the same device replaces it.
  induction calls generalizing statics with
  | nil => exact ⟨statics, rfl, fun device _ => rfl⟩
  | cons call rest ih =>
      obtain ⟨callBus, restBus⟩ := List.forall_mem_cons.mp ofBus
      obtain ⟨after, done, keys⟩ := ih restBus
        (Function.update statics call.1.identifier (some call.2))
      refine ⟨after, ?_, fun device deviceBus => ?_⟩
      · rw [List.foldlM_cons, callMutator?_eq]
        exact done
      · rw [keys device deviceBus, consistent.keyOf_after_call callBus deviceBus,
          lastGiven?_cons, Option.or_assoc]
        by_cases own : call.1 = device <;> simp [own]

/-! ## The class of a room -/

theorem Consistent.busDevices_nodup (consistent : room.Consistent) : room.busDevices.Nodup :=
  consistent.devices_nodup.filter _

/-- Every device has its own share of the class, and no call of a mutator reaches another share. -/
structure DevicesPaired (room : Room) (groups : RoomGroups) : Prop where
  /-- The members of the class are those of the devices in their order, besides the common ones. -/
  fields_eq : (room.classDecl groups).fields =
    room.fixedFields ++ room.devices.flatMap fun device => (room.share device).slots
  getters_eq : (room.classDecl groups).getters =
    room.devices.flatMap fun device => (room.share device).accessors
  methods_eq : (room.classDecl groups).methods =
    (room.devices.flatMap fun device => (room.share device).mutators) ++
      [room.setupMethod, room.groupsMethod groups]
  shares : ∀ device ∈ room.devices, (room.share device).Fits room.className device
  apart : room.busDevices.Pairwise fun left right =>
    left.identifier ≠ right.identifier ∧ left.name ≠ right.name ∧ left.mutator ≠ right.mutator
  unaffected : room.busDevices.Pairwise fun left right =>
    room.Unaffected left right ∧ room.Unaffected right left
  lookups : ∀ calls : List (Device × String), (∀ call ∈ calls, call.1 ∈ room.busDevices) →
    ∀ statics, ∃ after, calls.foldlM room.callMutator? statics = some after ∧
      ∀ device ∈ room.busDevices,
        room.keyOf after device = (lastGiven? device calls).or (room.keyOf statics device)

theorem map_busDevices {make : Device → α} :
    room.busDevices.map make =
      room.devices.flatMap fun device => if device.isBusAddressed then [make device] else [] := by
  unfold busDevices
  induction room.devices with
  | nil => rfl
  | cons device rest ih =>
      rw [List.filter_cons, List.flatMap_cons, ← ih]
      split <;> rfl

theorem Consistent.devicesPaired (consistent : room.Consistent) (groups : RoomGroups) :
    room.DevicesPaired groups := by
  constructor
  case fields_eq =>
    exact congrArg (room.fixedFields ++ ·) (List.filterMap_eq_flatMap_toList _ _)
  case getters_eq => exact map_busDevices
  case methods_eq =>
    exact congrArg (· ++ [room.setupMethod, room.groupsMethod groups]) map_busDevices
  case shares => exact fun device _ => share_fits device
  case apart =>
    apply consistent.busDevices_nodup.imp_of_mem
    intro left right leftBus rightBus different
    have names : left.name ≠ right.name := fun same =>
      different (consistent.eq_of_bus_name leftBus rightBus same)
    exact ⟨fun same => names (Device.identifier_eq_iff.mp same), names,
      fun same => names (Device.mutator_eq_iff.mp same)⟩
  case unaffected =>
    apply consistent.busDevices_nodup.imp_of_mem
    intro left right leftBus rightBus different
    exact ⟨consistent.unaffected leftBus rightBus different,
      consistent.unaffected rightBus leftBus different.symm⟩
  case lookups => exact consistent.keyOf_after_calls

/-- However devices are compiled into a room, its accessors and mutators pair up. -/
theorem accessors_and_mutators_pair_up {plan : RoomPlan} {fresh : Room}
    (accepted : Room.ofPlan plan = .ok fresh) (runs : List (Catalog × List DevicePlan))
    (groups : RoomGroups) : (fresh.afterCompilations runs).DevicesPaired groups :=
  ((Consistent.ofPlan accepted).afterCompilations runs).devicesPaired groups

/-- Names that differ in their first letter alone, next to a speaker and a frame, and then a device
that is refused. -/
theorem accessors_and_mutators_pair_up_by_case :
    let plan : RoomPlan := { shortName := "Buero", longName := "Büro", floor := 1 }
    let mounted : List DevicePlan :=
      [{ type := "HmIpTaster", index := 0, customName := some "Tor" },
        { type := "OwnSonosDevice", index := 0, customName := some "Box" },
        { type := "HmIpTaster", index := 1, customName := some "tor" },
        { type := "Window", index := 0 }]
    let repeated : List DevicePlan :=
      [{ type := "HmIpWippe", index := 0, customName := some "Tor" }]
    let room := (vacant plan).afterCompilations [(.builtin, mounted), (.builtin, repeated)]
    ∃ groups, RoomGroups.ofRoom room = .ok groups ∧ room.DevicesPaired groups ∧
      room.busDevices.map (·.mutator) = ["setIdTor", "setIdtor"] := by
  intro plan mounted repeated room
  have accepted : Room.ofPlan plan = .ok (vacant plan) := by decide +kernel
  exact ⟨⟨[], none, none, none, none, none, none, none, []⟩, by decide +kernel,
    accessors_and_mutators_pair_up accepted _ _, by decide +kernel⟩

end Room

end Homeplan
