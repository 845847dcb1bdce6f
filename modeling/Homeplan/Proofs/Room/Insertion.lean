import Homeplan.Proofs.Catalog
import Homeplan.Proofs.Room.Indexes

namespace Homeplan

/-! When devices can be added to a room.

The checks of an insertion look at indexes that have grown with the room.  In a consistent room they
amount to a condition on pairs of devices, so a list of plans is accepted if and only if every plan
compiles and all pairs of its devices are compatible.
-/

namespace Device

/-- Two devices that one room can hold: type and index tell them apart, and if both have members in
the room class, so do their names. -/
def Compatible (left right : Device) : Prop :=
  ¬ (left.type = right.type ∧ left.index = right.index) ∧
  ¬ (left.hasMembers = true ∧ right.hasMembers = true ∧ left.name = right.name)

theorem identifier_eq_iff {left right : Device} :
    left.identifier = right.identifier ↔ left.name = right.name :=
  String.append_right_inj "id"

theorem hasMembers_iff (device : Device) :
    device.hasMembers = true ↔ device.deviceClass ≠ .window := by
  unfold hasMembers isBusAddressed isSingleton
  cases device.deviceClass <;> decide

theorem compile_eq_ok_iff {catalog : Catalog} {owner : String} {plan : DevicePlan}
    {device : Device} :
    Device.compile catalog owner plan = .ok device ↔
      ∃ entry, catalog.get? plan.type = some entry ∧
        ¬ (entry.allCapabilities.contains .windowFrame = true ∧ plan.settings.isSome = true) ∧
        device = ⟨owner, plan, entry⟩ := by
  unfold compile
  cases catalog.get? plan.type with
  | none => simp
  | some entry =>
      by_cases refused : entry.allCapabilities.contains .windowFrame = true ∧
          plan.settings.isSome = true
      · simp [refused]
      · have passes : (entry.allCapabilities.contains .windowFrame && plan.settings.isSome) =
            false := by
          simpa using refused
        simp only [passes, Bool.false_eq_true, if_false, Except.ok.injEq, Option.some.injEq,
          exists_eq_left', refused, not_false_eq_true, true_and]
        exact eq_comm

end Device

namespace Room

variable {room next final : Room} {catalog : Catalog} {device : Device}

theorem Consistent.position?_eq_none_iff (consistent : room.Consistent) {type : String}
    {index : UInt32} :
    room.position? type index = none ↔
      ∀ other ∈ room.devices, ¬ (other.type = type ∧ other.index = index) := by
  rw [Option.eq_none_iff_forall_ne_some]
  simp only [ne_eq, consistent.position_iff, List.mem_iff_getElem?]
  constructor
  · intro free other member same
    obtain ⟨position, located⟩ := member
    exact free position ⟨other, located, same⟩
  · intro free position taken
    obtain ⟨other, located, same⟩ := taken
    exact free other ⟨position, located⟩ same

theorem Consistent.mem_identifiers_iff (consistent : room.Consistent) {identifier : String} :
    identifier ∈ room.identifiers ↔
      ∃ other ∈ room.devices, other.hasMembers = true ∧ other.identifier = identifier := by
  rw [consistent.identifiers_eq]
  simp [and_assoc]

/-- Among the devices that have members, a name belongs to one device. -/
theorem Consistent.device_eq_of_name (consistent : room.Consistent) {left right : Device}
    (leftInRoom : left ∈ room.devices) (leftMembers : left.hasMembers = true)
    (rightInRoom : right ∈ room.devices) (rightMembers : right.hasMembers = true)
    (same : left.name = right.name) : left = right := by
  have distinct : ((room.devices.filter (·.hasMembers)).map (·.identifier)).Nodup :=
    consistent.identifiers_eq ▸ consistent.identifiers_nodup
  apply List.inj_on_of_nodup_map distinct
  · exact List.mem_filter.mpr ⟨leftInRoom, leftMembers⟩
  · exact List.mem_filter.mpr ⟨rightInRoom, rightMembers⟩
  · exact Device.identifier_eq_iff.mpr same

/-- A device is accepted if and only if its type is known and it is compatible with every device
that the room has. -/
theorem Consistent.addDevice_eq_ok_iff (consistent : room.Consistent) :
    room.addDevice catalog device = .ok next ↔
      catalog.contains device.type = true ∧ (∀ other ∈ room.devices, other.Compatible device) ∧
      next = room.append device := by
  rw [Room.addDevice_eq_ok_iff, consistent.position?_eq_none_iff, consistent.mem_identifiers_iff]
  constructor
  · intro accepted
    obtain ⟨known, free, unused, appended⟩ := accepted
    refine ⟨known, fun other member => ⟨free other member, ?_⟩, appended⟩
    intro clash
    obtain ⟨otherMembers, members, same⟩ := clash
    exact unused members ⟨other, member, otherMembers, Device.identifier_eq_iff.mpr same⟩
  · intro accepted
    obtain ⟨known, compatible, appended⟩ := accepted
    refine ⟨known, fun other member => (compatible other member).1, ?_, appended⟩
    intro members used
    obtain ⟨other, member, otherMembers, same⟩ := used
    exact (compatible other member).2 ⟨otherMembers, members, Device.identifier_eq_iff.mp same⟩

/-- The plans of some devices of a room compile to these devices, one by one. -/
def Compiles (catalog : Catalog) (owner : String) : List DevicePlan → List Device → Prop :=
  List.Forall₂ fun plan device => Device.compile catalog owner plan = .ok device

theorem withDevices_nil : room.withDevices catalog [] = .ok room := rfl

theorem withDevices_cons (plan : DevicePlan) (rest : List DevicePlan) :
    room.withDevices catalog (plan :: rest) =
      room.compileDevice catalog plan >>= fun next => next.withDevices catalog rest := by
  unfold withDevices
  rw [compileDevices]
  cases room.compileDevice catalog plan <;> rfl

theorem Consistent.compileDevice_eq_ok_iff (consistent : room.Consistent) {plan : DevicePlan} :
    room.compileDevice catalog plan = .ok next ↔
      ∃ device, Device.compile catalog room.shortName plan = .ok device ∧
        (∀ other ∈ room.devices, other.Compatible device) ∧ next = room.append device := by
  unfold compileDevice
  simp only [bind_eq_ok, consistent.addDevice_eq_ok_iff]
  constructor
  · intro passed
    obtain ⟨device, compiled, _, accepted⟩ := passed
    exact ⟨device, compiled, accepted⟩
  · intro passed
    obtain ⟨device, compiled, accepted⟩ := passed
    obtain ⟨entry, found, _, rfl⟩ := Device.compile_eq_ok_iff.mp compiled
    have known : catalog.contains plan.type = true :=
      catalog.entries.contains_iff.mpr ⟨entry, found⟩
    exact ⟨_, compiled, known, accepted⟩

theorem Consistent.compileDevice (consistent : room.Consistent) {plan : DevicePlan}
    (accepted : room.compileDevice catalog plan = .ok next) : next.Consistent := by
  obtain ⟨device, _, added⟩ := bind_eq_ok.mp accepted
  exact consistent.addDevice added

theorem Consistent.withDevices (consistent : room.Consistent) {plans : List DevicePlan}
    (accepted : room.withDevices catalog plans = .ok final) : final.Consistent := by
  induction plans generalizing room with
  | nil =>
      cases accepted
      exact consistent
  | cons plan rest ih =>
      rw [withDevices_cons, bind_eq_ok] at accepted
      obtain ⟨next, first, later⟩ := accepted
      exact ih (consistent.compileDevice first) later

/-- A list of plans is accepted if and only if all plans compile, the new devices are compatible
with each other and all devices of the room are compatible with them. -/
theorem Consistent.withDevices_eq_ok_iff (consistent : room.Consistent) {plans : List DevicePlan} :
    room.withDevices catalog plans = .ok final ↔
      ∃ devices, Compiles catalog room.shortName plans devices ∧
        (∀ other ∈ room.devices, ∀ device ∈ devices, other.Compatible device) ∧
        devices.Pairwise Device.Compatible ∧ final = devices.foldl Room.append room := by
  induction plans generalizing room with
  | nil => simp [withDevices_nil, Compiles, eq_comm]
  | cons plan rest ih =>
      rw [withDevices_cons, bind_eq_ok]
      constructor
      · intro accepted
        obtain ⟨next, first, later⟩ := accepted
        obtain ⟨device, compiled, compatible, rfl⟩ := consistent.compileDevice_eq_ok_iff.mp first
        have grown := consistent.compileDevice first
        obtain ⟨devices, restCompiled, across, within, rfl⟩ := (ih grown).mp later
        have ahead : ∀ other ∈ devices, device.Compatible other := fun other member =>
          across device (by simp) other member
        refine ⟨device :: devices, .cons compiled restCompiled, ?_,
          List.pairwise_cons.mpr ⟨ahead, within⟩, rfl⟩
        intro other member added isAdded
        rcases List.mem_cons.mp isAdded with rfl | later
        · exact compatible other member
        · exact across other (by simp [member]) added later
      · intro accepted
        obtain ⟨_, compiled, across, within, rfl⟩ := accepted
        obtain ⟨device, devices, first, restCompiled, rfl⟩ := List.forall₂_cons_left_iff.mp compiled
        obtain ⟨ahead, restWithin⟩ := List.pairwise_cons.mp within
        have accepted : room.compileDevice catalog plan = .ok (room.append device) :=
          consistent.compileDevice_eq_ok_iff.mpr
            ⟨device, first, fun other member => across other member device (by simp), rfl⟩
        refine ⟨_, accepted, (ih (consistent.compileDevice accepted)).mpr
          ⟨devices, restCompiled, ?_, restWithin, rfl⟩⟩
        intro other member added isAdded
        rcases List.mem_append.mp member with member | last
        · exact across other member added (by simp [isAdded])
        · rw [List.mem_singleton.mp last]
          exact ahead added isAdded

theorem foldl_append_devices (devices : List Device) (room : Room) :
    (devices.foldl append room).devices = room.devices ++ devices := by
  induction devices generalizing room with
  | nil => simp
  | cons device rest ih => simp [ih]

theorem foldl_append_shortName (devices : List Device) (room : Room) :
    (devices.foldl append room).shortName = room.shortName := by
  induction devices generalizing room with
  | nil => rfl
  | cons device rest ih => exact ih (room.append device)

theorem foldl_append_floor (devices : List Device) (room : Room) :
    (devices.foldl append room).floor = room.floor := by
  induction devices generalizing room with
  | nil => rfl
  | cons device rest ih => exact ih (room.append device)

end Room

end Homeplan
