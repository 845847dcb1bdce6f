import Homeplan.Proofs.Artifact.Planning

namespace Homeplan

/-! What the files of a room depend on.

A room is compiled from its own plan, the devices listed for it and the catalog entries of their
types.  It is rendered from nothing but itself.  So two houses that agree on these give it the same
files, whatever else they hold.
-/

/-! ## Catalogs that agree on the types in use -/

section Agreement

variable {left right : Catalog}

theorem Device.compile_congr {plan : DevicePlan}
    (agree : left.get? plan.type = right.get? plan.type) (owner : String) :
    Device.compile left owner plan = Device.compile right owner plan := by
  unfold Device.compile
  rw [agree]

theorem Room.compileDevice_congr {plan : DevicePlan}
    (agree : left.get? plan.type = right.get? plan.type) (room : Room) :
    room.compileDevice left plan = room.compileDevice right plan := by
  unfold Room.compileDevice
  rw [Device.compile_congr agree]
  cases compiled : Device.compile right room.shortName plan with
  | error defect => rfl
  | ok device =>
      obtain ⟨entry, _, _, rfl⟩ := Device.compile_eq_ok_iff.mp compiled
      have known : left.contains (Device.type ⟨room.shortName, plan, entry⟩) =
          right.contains (Device.type ⟨room.shortName, plan, entry⟩) :=
        congrArg Option.isSome agree
      show Room.addDevice room left _ = Room.addDevice room right _
      unfold Room.addDevice
      rw [known]

theorem Room.withDevices_congr {plans : List DevicePlan}
    (agree : ∀ plan ∈ plans, left.get? plan.type = right.get? plan.type) (room : Room) :
    room.withDevices left plans = room.withDevices right plans := by
  induction plans generalizing room with
  | nil => rfl
  | cons plan rest ih =>
      have first := Room.compileDevice_congr (agree plan (List.mem_cons_self ..)) room
      have later := ih fun other member => agree other (List.mem_cons_of_mem _ member)
      rw [Room.withDevices_cons, Room.withDevices_cons, first]
      apply bind_congr
      intro next
      exact later next

theorem House.compileRoom_congr {plan other : HousePlan} {roomPlan : RoomPlan}
    (listed : plan.devicesOf roomPlan = other.devicesOf roomPlan)
    (agree : ∀ device ∈ plan.devicesOf roomPlan, left.get? device.type = right.get? device.type) :
    House.compileRoom left plan roomPlan = House.compileRoom right other roomPlan := by
  unfold House.compileRoom
  rw [← listed]
  apply bind_congr
  intro empty
  exact Room.withDevices_congr agree empty

end Agreement

/-! ## Places in a plan -/

/-- The files of the rooms stand in pairs, in the order of the rooms. -/
theorem getElem?_flatten_artifacts {options : RenderOptions} {rooms : List Room}
    {perRoom : List (List Artifact)}
    (planned : List.Forall₂ (fun room artifacts => Room.artifacts options room = .ok artifacts)
      rooms perRoom) {position : Nat} {room : Room} (located : rooms[position]? = some room) :
    ∃ groups, RoomGroups.ofRoom room = .ok groups ∧
      perRoom.flatten[2 * position]? = some (room.moduleArtifact groups options) ∧
      perRoom.flatten[2 * position + 1]? = some room.stubArtifact := by
  induction planned generalizing position with
  | nil => simp at located
  | cons first _ ih =>
      obtain ⟨groups, assembled, rfl⟩ := Room.artifacts_eq_ok_iff.mp first
      cases position with
      | zero =>
          cases located
          exact ⟨groups, assembled, rfl, rfl⟩
      | succ position => exact ih located

theorem House.artifacts_at {options : RenderOptions} {house : House} {artifacts : List Artifact}
    (planned : house.artifacts options = .ok artifacts) {position : Nat} {room : Room}
    (located : house.rooms[position]? = some room) :
    ∃ groups, RoomGroups.ofRoom room = .ok groups ∧
      artifacts[2 * position]? = some (room.moduleArtifact groups options) ∧
      artifacts[2 * position + 1]? = some room.stubArtifact := by
  obtain ⟨perRoom, rooms, rfl⟩ := House.artifacts_eq_ok_iff.mp planned
  obtain ⟨groups, assembled, module, stub⟩ := getElem?_flatten_artifacts rooms located
  have inside {place : Nat} {artifact : Artifact}
      (there : perRoom.flatten[place]? = some artifact) :
      (perRoom.flatten ++ [registryArtifact house.rooms options])[place]? = some artifact := by
    rw [List.getElem?_append_left (List.getElem?_eq_some_iff.mp there).1]
    exact there
  exact ⟨groups, assembled, inside module, inside stub⟩

theorem House.room_at {plan : HousePlan} {house : House} (compiled : House.compile plan = .ok house)
    {position : Nat} {roomPlan : RoomPlan} (located : plan.rooms[position]? = some roomPlan) :
    ∃ room, house.rooms[position]? = some room ∧
      House.compileRoom house.catalog plan roomPlan = .ok room := by
  obtain ⟨_, _, _, rooms⟩ := House.compile_eq_ok_iff.mp compiled
  exact exists_related_of_getElem? rooms located

/-- The folder and the file names of a room are those of its plan. -/
theorem House.paths_of_compileRoom {catalog : Catalog} {plan : HousePlan} {roomPlan : RoomPlan}
    {room : Room} (compiled : House.compileRoom catalog plan roomPlan = .ok room) :
    room.modulePath = (Room.vacant roomPlan).modulePath ∧
      room.stubPath = (Room.vacant roomPlan).stubPath := by
  obtain ⟨_, devices, _, _, rfl⟩ := House.compileRoom_eq_ok_iff.mp compiled
  have floors := Room.foldl_append_floor devices (Room.vacant roomPlan)
  have names := Room.foldl_append_shortName devices (Room.vacant roomPlan)
  simp only [Room.modulePath, Room.stubPath, Room.slug, Room.customizationClass, Room.className,
    floors, names, and_self]

/-- A room that two houses describe alike, with the same detached devices and the same types behind
all its devices, has the same module and the same stub in both, wherever it stands in them. -/
theorem HousePlan.room_files_isolated {left right : HousePlan} {leftHouse rightHouse : House}
    {options : RenderOptions} {leftArtifacts rightArtifacts : List Artifact}
    (leftCompiled : House.compile left = .ok leftHouse)
    (rightCompiled : House.compile right = .ok rightHouse)
    (leftPlanned : leftHouse.artifacts options = .ok leftArtifacts)
    (rightPlanned : rightHouse.artifacts options = .ok rightArtifacts)
    {roomPlan : RoomPlan} {leftPosition rightPosition : Nat}
    (inLeft : left.rooms[leftPosition]? = some roomPlan)
    (inRight : right.rooms[rightPosition]? = some roomPlan)
    (detached : (left.detached.get? roomPlan.shortName).getD [] =
      (right.detached.get? roomPlan.shortName).getD [])
    (types : ∀ device ∈ left.devicesOf roomPlan,
      leftHouse.catalog.get? device.type = rightHouse.catalog.get? device.type) :
    ∃ module stub : Artifact,
      module.path = (Room.vacant roomPlan).modulePath ∧
      stub.path = (Room.vacant roomPlan).stubPath ∧
      leftArtifacts[2 * leftPosition]? = some module ∧
      rightArtifacts[2 * rightPosition]? = some module ∧
      leftArtifacts[2 * leftPosition + 1]? = some stub ∧
      rightArtifacts[2 * rightPosition + 1]? = some stub := by
  have listed : left.devicesOf roomPlan = right.devicesOf roomPlan := by
    unfold HousePlan.devicesOf
    rw [detached]
  obtain ⟨room, leftLocated, compiled⟩ := House.room_at leftCompiled inLeft
  obtain ⟨other, rightLocated, otherCompiled⟩ := House.room_at rightCompiled inRight
  rw [House.compileRoom_congr listed types] at compiled
  obtain rfl : room = other := Except.ok.inj (compiled.symm.trans otherCompiled)
  obtain ⟨groups, assembled, leftModule, leftStub⟩ := House.artifacts_at leftPlanned leftLocated
  obtain ⟨otherGroups, otherAssembled, rightModule, rightStub⟩ :=
    House.artifacts_at rightPlanned rightLocated
  obtain rfl : groups = otherGroups := Except.ok.inj (assembled.symm.trans otherAssembled)
  obtain ⟨modulePath, stubPath⟩ := House.paths_of_compileRoom otherCompiled
  exact ⟨_, _, modulePath, stubPath, leftModule, rightModule, leftStub, rightStub⟩

/-- A room with a device of a custom type, alone in one house, and in another one behind a cellar
with devices and a custom type of its own. -/
theorem HousePlan.shared_room_isolated :
    let melder : CustomType :=
      { id := "Melder", displayName := "Melder", className := "zigbee",
        capabilities := [.smokeDetector] }
    let buero : RoomPlan :=
      { shortName := "Buero", longName := "Arbeitszimmer", floor := 1,
        devices := [{ type := "Melder", index := 0, includeInGroup := true }] }
    let keller : RoomPlan := { shortName := "Keller", longName := "Keller", floor := -1 }
    let taster : DevicePlan := { type := "HmIpTaster", index := 3 }
    let left : HousePlan :=
      { customTypes := [melder], rooms := [buero],
        detached := .ofList [("Buero", [taster])] }
    let right : HousePlan :=
      { customTypes := [{ melder with id := "Pumpe", className := "wled" }, melder]
        rooms := [keller, buero]
        detached := .ofList
          [("Keller", [{ type := "Pumpe", index := 0 }]), ("Buero", [taster])] }
    ∃ leftHouse rightHouse leftArtifacts rightArtifacts,
      House.compile left = .ok leftHouse ∧ House.compile right = .ok rightHouse ∧
      leftHouse.artifacts {} = .ok leftArtifacts ∧ rightHouse.artifacts {} = .ok rightArtifacts ∧
      ∃ module stub : Artifact,
        module.path = (Room.vacant buero).modulePath ∧ stub.path = (Room.vacant buero).stubPath ∧
        leftArtifacts[0]? = some module ∧ rightArtifacts[2]? = some module ∧
        leftArtifacts[1]? = some stub ∧ rightArtifacts[3]? = some stub := by
  intro melder buero keller taster left right
  have runs : (House.compile left >>= fun leftHouse => House.compile right >>= fun rightHouse =>
      leftHouse.artifacts {} >>= fun _ => rightHouse.artifacts {} >>= fun _ =>
        .ok (decide (∀ device ∈ left.devicesOf buero,
          leftHouse.catalog.get? device.type = rightHouse.catalog.get? device.type))) =
      .ok true := by
    decide +kernel
  obtain ⟨leftHouse, leftCompiled, later⟩ := bind_eq_ok.mp runs
  obtain ⟨rightHouse, rightCompiled, later⟩ := bind_eq_ok.mp later
  obtain ⟨leftArtifacts, leftPlanned, later⟩ := bind_eq_ok.mp later
  obtain ⟨rightArtifacts, rightPlanned, agree⟩ := bind_eq_ok.mp later
  have types := of_decide_eq_true (Except.ok.inj agree)
  have inLeft : left.rooms[0]? = some buero := rfl
  have inRight : right.rooms[1]? = some buero := rfl
  have detached : (left.detached.get? buero.shortName).getD [] =
      (right.detached.get? buero.shortName).getD [] := by
    decide +kernel
  exact ⟨leftHouse, rightHouse, leftArtifacts, rightArtifacts, leftCompiled, rightCompiled,
    leftPlanned, rightPlanned,
    HousePlan.room_files_isolated leftCompiled rightCompiled leftPlanned rightPlanned inLeft inRight
      detached types⟩

end Homeplan
