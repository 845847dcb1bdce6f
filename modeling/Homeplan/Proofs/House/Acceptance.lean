import Homeplan.House
import Homeplan.Proofs.Room.Insertion
import Homeplan.Proofs.Room.Names

namespace Homeplan

/-! Exactly which house plans compile, and what they compile to.

`HousePlan.Acceptable` is a condition on the plan alone: it mentions neither catalogs nor rooms.
-/

/-- Every type that a house knows: the built-in types, then its custom types. -/
def HousePlan.typeRows (plan : HousePlan) : List TypeRow :=
  Catalog.builtinRows ++ plan.customTypes.filterMap CustomType.row?

/-- The devices that one room can be given, in a house that knows some types. -/
structure AcceptableDevices (rows : List TypeRow) (plans : List DevicePlan) : Prop where
  known : ∀ plan ∈ plans, ∃ row ∈ rows, row.id = plan.type
  frames : ∀ plan ∈ plans, ∀ row ∈ rows, row.id = plan.type → row.IsFrame → plan.settings = none
  indexed : plans.Pairwise fun left right =>
    ¬ (left.type = right.type ∧ left.index = right.index)
  /-- Window frames have no members in the room class, so their names do not count. -/
  named : plans.Pairwise fun left right =>
    ∀ leftRow ∈ rows, ∀ rightRow ∈ rows, leftRow.id = left.type → rightRow.id = right.type →
      leftRow.deviceClass ≠ .window → rightRow.deviceClass ≠ .window →
        Device.shortName left leftRow.displayName ≠ Device.shortName right rightRow.displayName

section Devices

variable {catalog : Catalog} {rows : List TypeRow} (listed : catalog.Lists rows)
include listed

theorem Catalog.Lists.row_unique {left right : TypeRow} (leftMember : left ∈ rows)
    (rightMember : right ∈ rows) (same : left.id = right.id) : left = right :=
  List.inj_on_of_nodup_map listed.distinct leftMember rightMember same

theorem Catalog.Lists.compile_eq_ok_iff {owner : String} {plan : DevicePlan} {device : Device} :
    Device.compile catalog owner plan = .ok device ↔
      ∃ row ∈ rows, row.id = plan.type ∧ ¬ (row.IsFrame ∧ plan.settings.isSome = true) ∧
        device = ⟨owner, plan, row.entry⟩ := by
  rw [Device.compile_eq_ok_iff]
  simp only [listed.get?_iff]
  constructor
  · intro accepted
    obtain ⟨_, ⟨row, member, same, rfl⟩, allowed, compiled⟩ := accepted
    rw [row.allCapabilities_contains] at allowed
    exact ⟨row, member, same, allowed, compiled⟩
  · intro accepted
    obtain ⟨row, member, same, allowed, compiled⟩ := accepted
    refine ⟨_, ⟨row, member, same, rfl⟩, ?_, compiled⟩
    rw [row.allCapabilities_contains]
    exact allowed

theorem Catalog.Lists.exists_compiles_iff {owner : String} {plans : List DevicePlan} :
    (∃ devices, Room.Compiles catalog owner plans devices) ↔
      (∀ plan ∈ plans, ∃ row ∈ rows, row.id = plan.type) ∧
      ∀ plan ∈ plans, ∀ row ∈ rows, row.id = plan.type → row.IsFrame → plan.settings = none := by
  unfold Room.Compiles
  simp only [exists_forall₂_iff, listed.compile_eq_ok_iff]
  constructor
  · intro compiles
    refine ⟨fun plan member => ?_, fun plan member row inRows same frame => ?_⟩
    · obtain ⟨_, row, inRows, same, _⟩ := compiles plan member
      exact ⟨row, inRows, same⟩
    · obtain ⟨_, found, foundIn, foundSame, allowed, _⟩ := compiles plan member
      obtain rfl := listed.row_unique foundIn inRows (foundSame.trans same.symm)
      exact Option.not_isSome_iff_eq_none.mp fun carries => allowed ⟨frame, carries⟩
  · intro accepted plan member
    obtain ⟨known, frames⟩ := accepted
    obtain ⟨row, inRows, same⟩ := known plan member
    refine ⟨_, row, inRows, same, ?_, rfl⟩
    intro refused
    obtain ⟨frame, carries⟩ := refused
    simp [frames plan member row inRows same frame] at carries

/-- Compiled devices are compatible if and only if their plans are told apart by type and index,
and by name where the types are not of the window class. -/
theorem Catalog.Lists.compatible_iff {owner : String} {left right : DevicePlan}
    {leftDevice rightDevice : Device}
    (leftCompiled : Device.compile catalog owner left = .ok leftDevice)
    (rightCompiled : Device.compile catalog owner right = .ok rightDevice) :
    (¬ (left.type = right.type ∧ left.index = right.index) ∧
      ∀ leftRow ∈ rows, ∀ rightRow ∈ rows, leftRow.id = left.type → rightRow.id = right.type →
        leftRow.deviceClass ≠ .window → rightRow.deviceClass ≠ .window →
          Device.shortName left leftRow.displayName ≠
            Device.shortName right rightRow.displayName) ↔
      leftDevice.Compatible rightDevice := by
  obtain ⟨leftRow, leftIn, leftSame, _, rfl⟩ := listed.compile_eq_ok_iff.mp leftCompiled
  obtain ⟨rightRow, rightIn, rightSame, _, rfl⟩ := listed.compile_eq_ok_iff.mp rightCompiled
  refine and_congr Iff.rfl ?_
  rw [Device.hasMembers_iff, Device.hasMembers_iff]
  constructor
  · intro apart clash
    obtain ⟨leftMembers, rightMembers, same⟩ := clash
    exact apart leftRow leftIn rightRow rightIn leftSame rightSame leftMembers rightMembers same
  · intro apart otherLeft otherLeftIn otherRight otherRightIn otherLeftSame otherRightSame
      leftMembers rightMembers same
    obtain rfl := listed.row_unique otherLeftIn leftIn (otherLeftSame.trans leftSame.symm)
    obtain rfl := listed.row_unique otherRightIn rightIn (otherRightSame.trans rightSame.symm)
    exact apart ⟨leftMembers, rightMembers, same⟩

theorem Catalog.Lists.acceptableDevices_iff {owner : String} {plans : List DevicePlan} :
    AcceptableDevices rows plans ↔
      ∃ devices, Room.Compiles catalog owner plans devices ∧
        devices.Pairwise Device.Compatible := by
  have pairs {devices : List Device} (compiles : Room.Compiles catalog owner plans devices) :=
    pairwise_iff_of_forall₂ compiles listed.compatible_iff
  simp only [List.pairwise_and_iff] at pairs
  constructor
  · intro acceptable
    obtain ⟨known, frames, indexed, named⟩ := acceptable
    obtain ⟨devices, compiles⟩ := listed.exists_compiles_iff.mpr ⟨known, frames⟩
    exact ⟨devices, compiles, (pairs compiles).mp ⟨indexed, named⟩⟩
  · intro accepted
    obtain ⟨devices, compiles, compatible⟩ := accepted
    obtain ⟨known, frames⟩ := listed.exists_compiles_iff.mp ⟨devices, compiles⟩
    obtain ⟨indexed, named⟩ := (pairs compiles).mpr compatible
    exact ⟨known, frames, indexed, named⟩

end Devices

namespace House

theorem repeatedRoom?_eq_none_iff {seen names : List String} :
    repeatedRoom? seen names = none ↔ names.Nodup ∧ ∀ name ∈ names, name ∉ seen := by
  induction names generalizing seen with
  | nil => simp [repeatedRoom?]
  | cons name rest ih =>
      by_cases known : name ∈ seen
      · simp [repeatedRoom?, known]
      · simp only [repeatedRoom?, List.contains_eq_mem, known, decide_false, Bool.false_eq_true,
          if_false, ih, List.nodup_cons, List.forall_mem_cons, not_false_eq_true, true_and]
        constructor
        · intro accepted
          obtain ⟨distinct, fresh⟩ := accepted
          have first : name ∉ rest := fun member => fresh name member (List.mem_cons_self ..)
          exact ⟨⟨first, distinct⟩, fun other member inSeen =>
            fresh other member (List.mem_cons_of_mem _ inSeen)⟩
        · intro accepted
          obtain ⟨⟨first, distinct⟩, fresh⟩ := accepted
          refine ⟨distinct, fun other member inSeen => ?_⟩
          rcases List.mem_cons.mp inSeen with same | inSeen
          · exact first (same ▸ member)
          · exact fresh other member inSeen

theorem compileRoom_eq_ok_iff {catalog : Catalog} {plan : HousePlan} {roomPlan : RoomPlan}
    {room : Room} :
    compileRoom catalog plan roomPlan = .ok room ↔
      roomPlan.WellNamed ∧ ∃ devices,
        Room.Compiles catalog roomPlan.shortName (plan.devicesOf roomPlan) devices ∧
        devices.Pairwise Device.Compatible ∧
        room = devices.foldl Room.append (Room.vacant roomPlan) := by
  unfold compileRoom
  simp only [bind_eq_ok, Room.ofPlan_eq_ok_iff]
  have filled (named : roomPlan.WellNamed) :
      (Room.vacant roomPlan).withDevices catalog (plan.devicesOf roomPlan) = .ok room ↔ _ :=
    (Room.Consistent.ofPlan (Room.ofPlan_eq_ok_iff.mpr ⟨named, rfl⟩)).withDevices_eq_ok_iff
  constructor
  · intro compiled
    obtain ⟨_, ⟨named, rfl⟩, later⟩ := compiled
    obtain ⟨devices, compiles, _, compatible, complete⟩ := (filled named).mp later
    exact ⟨named, devices, compiles, compatible, complete⟩
  · intro compiled
    obtain ⟨named, devices, compiles, compatible, complete⟩ := compiled
    refine ⟨_, ⟨named, rfl⟩, (filled named).mpr ⟨devices, compiles, ?_, compatible, complete⟩⟩
    intro other member
    contradiction

theorem find?_undeclared_eq_none_iff {plan : HousePlan} :
    plan.detached.keys.find? (fun room => !(plan.rooms.map (·.shortName)).contains room) = none ↔
      ∀ key ∈ plan.detached.keys, ∃ room ∈ plan.rooms, room.shortName = key := by
  simp

theorem compile_eq_ok_iff {plan : HousePlan} {house : House} :
    House.compile plan = .ok house ↔
      Catalog.builtin.extend plan.customTypes = .ok house.catalog ∧
      (plan.rooms.map (·.shortName)).Nodup ∧
      (∀ key ∈ plan.detached.keys, ∃ room ∈ plan.rooms, room.shortName = key) ∧
      List.Forall₂ (fun roomPlan room => compileRoom house.catalog plan roomPlan = .ok room)
        plan.rooms house.rooms := by
  unfold House.compile
  rw [bind_eq_ok]
  constructor
  · intro compiled
    obtain ⟨catalog, extended, later⟩ := compiled
    dsimp only at later
    split at later
    · contradiction
    · rename_i unrepeated
      split at later
      · contradiction
      · rename_i declared
        obtain ⟨rooms, roomsCompiled, same⟩ := bind_eq_ok.mp later
        cases same
        exact ⟨extended, (repeatedRoom?_eq_none_iff.mp unrepeated).1,
          find?_undeclared_eq_none_iff.mp declared, mapM_eq_ok_iff.mp roomsCompiled⟩
  · intro accepted
    obtain ⟨extended, distinct, declared, roomsCompiled⟩ := accepted
    have unrepeated : repeatedRoom? [] (plan.rooms.map (·.shortName)) = none :=
      repeatedRoom?_eq_none_iff.mpr ⟨distinct, by simp⟩
    refine ⟨house.catalog, extended, ?_⟩
    simp only [unrepeated, find?_undeclared_eq_none_iff.mpr declared]
    exact bind_eq_ok.mpr ⟨house.rooms, mapM_eq_ok_iff.mpr roomsCompiled, rfl⟩

theorem valid_of_compile {plan : HousePlan} {house : House}
    (compiled : compile plan = .ok house) {room : Room} (member : room ∈ house.rooms) :
    Room.isValidName room.shortName = true := by
  obtain ⟨_, _, _, rooms⟩ := compile_eq_ok_iff.mp compiled
  obtain ⟨roomPlan, _, roomCompiled⟩ := exists_related_of_mem rooms member
  obtain ⟨named, devices, _, _, rfl⟩ := compileRoom_eq_ok_iff.mp roomCompiled
  rw [Room.foldl_append_shortName]
  exact Room.isValidName_iff.mpr named.safe

theorem consistent_of_compile {plan : HousePlan} {house : House}
    (compiled : compile plan = .ok house) {room : Room} (member : room ∈ house.rooms) :
    room.Consistent := by
  obtain ⟨_, _, _, rooms⟩ := compile_eq_ok_iff.mp compiled
  obtain ⟨roomPlan, _, roomCompiled⟩ := exists_related_of_mem rooms member
  obtain ⟨empty, accepted, filled⟩ := bind_eq_ok.mp roomCompiled
  exact (Room.Consistent.ofPlan accepted).withDevices filled

/-- A house that was built as its plan says: its rooms are those of the plan in order, and the
devices of a room are those listed for it in order, each compiled for this room. -/
structure Realizes (house : House) (plan : HousePlan) : Prop where
  catalog : Catalog.builtin.extend plan.customTypes = .ok house.catalog
  rooms : List.Forall₂
    (fun (roomPlan : RoomPlan) (room : Room) =>
      room.shortName = roomPlan.shortName ∧
      List.Forall₂
        (fun (devicePlan : DevicePlan) (device : Device) =>
          Device.compile house.catalog roomPlan.shortName devicePlan = .ok device ∧
          device.plan = devicePlan ∧ device.room = roomPlan.shortName)
        (plan.devicesOf roomPlan) room.devices)
    plan.rooms house.rooms

theorem realizes_of_compile {plan : HousePlan} {house : House}
    (compiled : House.compile plan = .ok house) : house.Realizes plan := by
  obtain ⟨extended, _, _, rooms⟩ := compile_eq_ok_iff.mp compiled
  refine ⟨extended, rooms.imp fun roomPlan room roomCompiled => ?_⟩
  obtain ⟨_, devices, compiles, _, rfl⟩ := compileRoom_eq_ok_iff.mp roomCompiled
  refine ⟨Room.foldl_append_shortName _ _, ?_⟩
  rw [Room.foldl_append_devices]
  refine List.Forall₂.imp (fun devicePlan device deviceCompiled => ?_) compiles
  obtain ⟨entry, _, _, rfl⟩ := Device.compile_eq_ok_iff.mp deviceCompiled
  exact ⟨deviceCompiled, rfl, rfl⟩

end House

end Homeplan
