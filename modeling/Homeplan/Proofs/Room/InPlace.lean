import Homeplan.Room
import Mathlib.Tactic.SplitIfs

namespace Homeplan.Room

/-! Insertions that change a room in place.

A change that stops keeps what it has done to the room so far.  An insertion written in this way
updates one index after the other, so that a refusal leaves no trace rests on the order of its steps:
all checks stand before the first update.
-/

/-- A change of a room in place, which may stop at a defect. -/
abbrev Change := ExceptT Defect (StateM Room)

namespace Change

/-- How a change of the room ends, and the room behind it. -/
def applyTo (change : Change Unit) (room : Room) : Except Defect Unit × Room := change.run.run room

def refuseIf (refused : Bool) (defect : Defect) : Change Unit :=
  if refused then throw defect else pure ()

/-- Enters a device into one index of the room after the other, and then into its devices. -/
def enter (device : Device) : Change Unit := do
  let room ← get
  let position := room.devices.length
  modify fun room =>
    { room with
      byType := room.byType.alter device.type fun slots =>
        (slots.getD {}).insert device.index position }
  if device.hasMembers then
    modify fun room => { room with identifiers := room.identifiers ++ [device.identifier] }
  modify fun room => { room with hasManagedDevices := room.hasManagedDevices || device.isManaged }
  device.tags.forM fun tag => modify fun room =>
    { room with groups := room.groups.alter tag fun members => members.getD [] ++ [position] }
  modify fun room => { room with devices := room.devices ++ [device] }

def insertDevice (catalog : Catalog) (device : Device) : Change Unit := do
  let room ← get
  refuseIf (!catalog.contains device.type) (.unknownTypeInRoom room.shortName device.type)
  refuseIf (room.position? device.type device.index).isSome
    (.duplicateDevice room.shortName device.type device.index)
  refuseIf (device.hasMembers && room.identifiers.contains device.identifier)
    (.duplicateIdentifier room.shortName device.identifier device.type device.index)
  enter device

/-- Compiles a plan for the room and inserts the device. -/
def insertPlan (catalog : Catalog) (plan : DevicePlan) : Change Unit := do
  let room ← get
  match Device.compile catalog room.shortName plan with
  | .ok device => insertDevice catalog device
  | .error defect => throw defect

def insertPlans (catalog : Catalog) (plans : List DevicePlan) : Change Unit :=
  plans.forM (insertPlan catalog)

section Steps

variable {room : Room} {catalog : Catalog} {next : Change Unit}

theorem get_bind (later : Room → Change Unit) :
    (get >>= later : Change Unit).applyTo room = (later room).applyTo room := rfl

theorem modify_bind (change : Room → Room) :
    (modify change >>= fun _ => next : Change Unit).applyTo room = next.applyTo (change room) := rfl

theorem refuseIf_bind (refused : Bool) (defect : Defect) :
    (refuseIf refused defect >>= fun _ => next).applyTo room =
      if refused then (.error defect, room) else next.applyTo room := by
  cases refused <;> rfl

/-- The end of a change that has another one behind it. -/
theorem bind_applyTo (first : Change Unit) :
    (first >>= fun _ => next).applyTo room =
      match first.applyTo room with
      | (.ok _, between) => next.applyTo between
      | (.error defect, after) => (.error defect, after) := by
  rw [applyTo, ExceptT.run_bind, StateT.run_bind]
  rw [applyTo]
  rcases first.run.run room with ⟨_ | _, _⟩ <;> rfl

theorem forM_tags_bind (tags : List GroupTag) (position : Nat) :
    ((tags.forM fun tag => modify fun room : Room =>
        { room with groups := room.groups.alter tag fun members => members.getD [] ++ [position] })
      >>= fun _ => next : Change Unit).applyTo room =
      next.applyTo { room with
        groups := tags.foldl
          (fun groups tag => groups.alter tag fun members => members.getD [] ++ [position])
          room.groups } := by
  induction tags generalizing room with
  | nil => rfl
  | cons tag rest ih => exact ih

theorem enter_applyTo (device : Device) :
    (enter device).applyTo room = (.ok (), room.append device) := by
  cases members : device.hasMembers <;>
    simp only [enter, members, Bool.false_eq_true, if_true, if_false, get_bind, modify_bind,
      forM_tags_bind, append] <;>
    rfl

/-- Once the checks are passed, the updates lead to the room that holds the device. -/
theorem insertDevice_applyTo (device : Device) :
    (insertDevice catalog device).applyTo room =
      match room.addDevice catalog device with
      | .ok next => (.ok (), next)
      | .error defect => (.error defect, room) := by
  rw [insertDevice, get_bind, refuseIf_bind, refuseIf_bind, refuseIf_bind, enter_applyTo, addDevice]
  split_ifs <;> rfl

/-- Plans that are inserted in place end as they do one room after the other. -/
theorem insertPlans_applyTo (plans : List DevicePlan) :
    (insertPlans catalog plans).applyTo room =
      match room.compileDevices catalog plans with
      | (after, none) => (.ok (), after)
      | (after, some defect) => (.error defect, after) := by
  induction plans generalizing room with
  | nil => rfl
  | cons plan rest ih =>
      have first : (insertPlan catalog plan).applyTo room =
          match room.compileDevice catalog plan with
          | .ok next => (.ok (), next)
          | .error defect => (.error defect, room) := by
        rw [insertPlan, get_bind, compileDevice]
        cases Device.compile catalog room.shortName plan with
        | error defect => rfl
        | ok device => exact insertDevice_applyTo device
      show (insertPlan catalog plan >>= fun _ => insertPlans catalog rest).applyTo room = _
      rw [bind_applyTo, first, compileDevices]
      cases room.compileDevice catalog plan with
      | error defect => rfl
      | ok next => exact ih

end Steps

end Change

/-! ## Where a list of plans stops -/

variable {room after : Room} {catalog : Catalog}

/-- The plans before the refused one are in the room, and it is refused by the room that they leave. -/
theorem compileDevices_stopped {plans : List DevicePlan} {defect : Defect}
    (stopped : room.compileDevices catalog plans = (after, some defect)) :
    ∃ k, ∃ inRange : k < plans.length,
      room.compileDevices catalog (plans.take k) = (after, none) ∧
      after.compileDevice catalog plans[k] = .error defect := by
  induction plans generalizing room with
  | nil => cases stopped
  | cons plan rest ih =>
      rw [compileDevices] at stopped
      split at stopped
      · rename_i next accepted
        obtain ⟨k, inRange, taken, refused⟩ := ih stopped
        refine ⟨k + 1, Nat.succ_lt_succ inRange, ?_, refused⟩
        rw [List.take_succ_cons, compileDevices, accepted]
        exact taken
      · rename_i refused
        cases stopped
        exact ⟨0, Nat.succ_pos _, rfl, refused⟩

theorem compileDevices_single {plan : DevicePlan} {defect : Defect}
    (refused : room.compileDevice catalog plan = .error defect) :
    room.compileDevices catalog [plan] = (room, some defect) := by
  rw [compileDevices, refused]

/-- An insertion that is refused leaves the room as it was, although it changes it in place, and so
does a list of plans from the first one on that is refused: what is in the room then are the devices
of the plans before, and the room refuses this plan alone for the same defect. -/
theorem refused_insertions_leave_room (room : Room) (catalog : Catalog) :
    (∀ device defect after,
      (Change.insertDevice catalog device).applyTo room = (.error defect, after) ↔
        room.addDevice catalog device = .error defect ∧ after = room) ∧
    (∀ plans defect after,
      (Change.insertPlans catalog plans).applyTo room = (.error defect, after) ↔
        room.compileDevices catalog plans = (after, some defect)) ∧
    ∀ plans defect after, room.compileDevices catalog plans = (after, some defect) →
      ∃ k, ∃ inRange : k < plans.length,
        room.compileDevices catalog (plans.take k) = (after, none) ∧
        after.compileDevices catalog [plans[k]] = (after, some defect) := by
  refine ⟨fun device defect after => ?_, fun plans defect after => ?_,
    fun plans defect after stopped => ?_⟩
  · rw [Change.insertDevice_applyTo]
    cases room.addDevice catalog device <;> simp [eq_comm]
  · rw [Change.insertPlans_applyTo]
    rcases room.compileDevices catalog plans with ⟨_, _ | _⟩ <;> simp [and_comm]
  · obtain ⟨k, inRange, taken, refused⟩ := compileDevices_stopped stopped
    exact ⟨k, inRange, taken, compileDevices_single refused⟩

/-- The second sensor has the display name of the first one, so the first one alone stays, and the
button behind them is not looked at. -/
theorem refused_sensor_leaves_first :
    let plans : List DevicePlan :=
      [{ type := "HmIpBewegung", index := 0 }, { type := "ZigbeeAquaraMotion", index := 0 },
        { type := "HmIpTaster", index := 0 }]
    let defect : Defect :=
      .duplicateIdentifier "Buero" "idBewegung" "ZigbeeAquaraMotion" 0
    ∃ room, Room.ofPlan { shortName := "Buero", longName := "Arbeitszimmer", floor := 1 } =
        .ok room ∧
      ∃ after, after.devices.map (·.type) = ["HmIpBewegung"] ∧
        room.compileDevices .builtin plans = (after, some defect) ∧
        ∃ k, ∃ inRange : k < plans.length,
          room.compileDevices .builtin (plans.take k) = (after, none) ∧
          after.compileDevices .builtin [plans[k]] = (after, some defect) := by
  intro plans defect
  refine ⟨_, rfl, _, ?_, Prod.ext rfl ?_, (refused_insertions_leave_room _ _).2.2 plans defect _
    (Prod.ext rfl ?_)⟩
  all_goals decide +kernel

end Homeplan.Room
