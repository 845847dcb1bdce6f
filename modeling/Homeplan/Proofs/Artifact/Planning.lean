import Homeplan.Artifact.Generation
import Homeplan.Proofs.House.Acceptance

namespace Homeplan

/-! The artifacts that are planned for a house. -/

theorem Room.artifacts_eq_ok_iff {options : RenderOptions} {room : Room}
    {artifacts : List Artifact} :
    room.artifacts options = .ok artifacts ↔ ∃ groups, RoomGroups.ofRoom room = .ok groups ∧
      artifacts = [room.moduleArtifact groups options, room.stubArtifact] := by
  simp only [Room.artifacts, bind_eq_ok, pure, Except.pure, Except.ok.injEq]
  exact exists_congr fun _ => and_congr_right fun _ => eq_comm

theorem House.artifacts_eq_ok_iff {options : RenderOptions} {house : House}
    {artifacts : List Artifact} :
    house.artifacts options = .ok artifacts ↔ ∃ perRoom,
      List.Forall₂ (fun room planned => Room.artifacts options room = .ok planned)
        house.rooms perRoom ∧
      artifacts = perRoom.flatten ++ [registryArtifact house.rooms options] := by
  simp only [House.artifacts, bind_eq_ok, mapM_eq_ok_iff, pure, Except.pure, Except.ok.injEq]
  exact exists_congr fun _ => and_congr_right fun _ => eq_comm

theorem Room.length_artifacts {options : RenderOptions} {room : Room} {artifacts : List Artifact}
    (planned : room.artifacts options = .ok artifacts) : artifacts.length = 2 := by
  obtain ⟨groups, _, rfl⟩ := Room.artifacts_eq_ok_iff.mp planned
  rfl

theorem length_flatten_artifacts {options : RenderOptions} {rooms : List Room}
    {perRoom : List (List Artifact)}
    (planned : List.Forall₂ (fun room artifacts => Room.artifacts options room = .ok artifacts)
      rooms perRoom) :
    perRoom.flatten.length = 2 * rooms.length := by
  induction planned with
  | nil => rfl
  | cons first _ ih =>
      simp only [List.flatten_cons, List.length_append, Room.length_artifacts first, ih,
        List.length_cons]
      omega

/-- A house has two artifacts for every room, and the registry. -/
theorem House.length_artifacts {options : RenderOptions} {house : House} {artifacts : List Artifact}
    (planned : house.artifacts options = .ok artifacts) :
    artifacts.length = 2 * house.rooms.length + 1 := by
  obtain ⟨perRoom, rooms, rfl⟩ := House.artifacts_eq_ok_iff.mp planned
  simp [length_flatten_artifacts rooms]

theorem House.Realizes.roomNames {house : House} {plan : HousePlan} (realizes : house.Realizes plan) :
    house.rooms.map (·.shortName) = plan.rooms.map (·.shortName) := by
  have matched := realizes.rooms.imp fun _ _ same => same.1
  rw [eq_comm, ← List.forall₂_eq_eq_eq, List.forall₂_map_left_iff, List.forall₂_map_right_iff]
  exact matched.imp fun _ _ same => same.symm

theorem House.roomNames_nodup {plan : HousePlan} {house : House}
    (compiled : House.compile plan = .ok house) : (house.rooms.map (·.shortName)).Nodup := by
  obtain ⟨_, distinct, _⟩ := House.compile_eq_ok_iff.mp compiled
  rw [(House.realizes_of_compile compiled).roomNames]
  exact distinct

theorem Room.classNames_nodup {rooms : List Room} (distinct : (rooms.map (·.shortName)).Nodup) :
    (rooms.map (·.className)).Nodup := by
  refine List.Pairwise.map _ (fun left right apart => ?_) (List.pairwise_map.mp distinct)
  exact fun same => apart ((String.append_right_inj "Room").mp same)

theorem HousePlan.artifacts_of_invalid {options : RenderOptions} {plan : HousePlan}
    {defect : Defect} (invalid : House.compile plan = .error defect) :
    plan.artifacts options = .error defect := by
  simp only [HousePlan.artifacts, invalid]
  rfl

theorem HousePlan.artifacts_of_compile {options : RenderOptions} {plan : HousePlan} {house : House}
    (compiled : House.compile plan = .ok house) :
    plan.artifacts options =
      (house.artifacts options).map (plan.rooms.map (·.shortName), ·) := by
  have names := (House.realizes_of_compile compiled).roomNames
  simp only [HousePlan.artifacts, compiled, ← names]
  show (house.artifacts options >>= fun artifacts => .ok (_, artifacts)) = _
  cases house.artifacts options <;> rfl

/-- Every artifact of a house is the module or the stub of one of its rooms, or the registry. -/
theorem House.mem_artifacts {options : RenderOptions} {house : House} {artifacts : List Artifact}
    (planned : house.artifacts options = .ok artifacts) {artifact : Artifact}
    (member : artifact ∈ artifacts) :
    (∃ room ∈ house.rooms, ∃ groups,
      artifact = room.moduleArtifact groups options ∨ artifact = room.stubArtifact) ∨
    artifact = registryArtifact house.rooms options := by
  obtain ⟨perRoom, rooms, rfl⟩ := House.artifacts_eq_ok_iff.mp planned
  rcases List.mem_append.mp member with ofRoom | registry
  · obtain ⟨pair, inPerRoom, inPair⟩ := List.mem_flatten.mp ofRoom
    obtain ⟨room, inRooms, pairPlanned⟩ := exists_related_of_mem rooms inPerRoom
    obtain ⟨groups, _, rfl⟩ := Room.artifacts_eq_ok_iff.mp pairPlanned
    exact Or.inl ⟨room, inRooms, groups, by simpa using inPair⟩
  · exact Or.inr (by simpa using registry)

/-- Every room of a house has groups, and the module built from them is planned. -/
theorem House.module_planned {options : RenderOptions} {house : House} {artifacts : List Artifact}
    (planned : house.artifacts options = .ok artifacts) {room : Room}
    (member : room ∈ house.rooms) :
    ∃ groups, RoomGroups.ofRoom room = .ok groups ∧
      room.moduleArtifact groups options ∈ artifacts := by
  obtain ⟨perRoom, rooms, rfl⟩ := House.artifacts_eq_ok_iff.mp planned
  obtain ⟨own, inPerRoom, ownPlanned⟩ := exists_related_of_mem (List.Forall₂.flip rooms) member
  obtain ⟨groups, assembled, rfl⟩ := Room.artifacts_eq_ok_iff.mp ownPlanned
  refine ⟨groups, assembled, List.mem_append_left _ (List.mem_flatten.mpr ⟨_, inPerRoom, ?_⟩)⟩
  exact List.mem_cons_self ..

theorem House.stub_planned {options : RenderOptions} {house : House} {artifacts : List Artifact}
    (planned : house.artifacts options = .ok artifacts) {room : Room}
    (member : room ∈ house.rooms) : room.stubArtifact ∈ artifacts := by
  obtain ⟨perRoom, rooms, rfl⟩ := House.artifacts_eq_ok_iff.mp planned
  obtain ⟨own, inPerRoom, ownPlanned⟩ := exists_related_of_mem (List.Forall₂.flip rooms) member
  obtain ⟨groups, _, rfl⟩ := Room.artifacts_eq_ok_iff.mp ownPlanned
  refine List.mem_append_left _ (List.mem_flatten.mpr ⟨_, inPerRoom, ?_⟩)
  exact List.mem_cons_of_mem _ (List.mem_singleton_self _)

theorem House.registry_planned {options : RenderOptions} {house : House} {artifacts : List Artifact}
    (planned : house.artifacts options = .ok artifacts) :
    registryArtifact house.rooms options ∈ artifacts := by
  obtain ⟨perRoom, _, rfl⟩ := House.artifacts_eq_ok_iff.mp planned
  exact List.mem_append_right _ (List.mem_singleton_self _)

theorem HousePlan.artifacts_eq_ok {options : RenderOptions} {plan : HousePlan}
    {rooms : List String} {artifacts : List Artifact}
    (planned : plan.artifacts options = .ok (rooms, artifacts)) :
    ∃ house, House.compile plan = .ok house ∧ house.artifacts options = .ok artifacts := by
  obtain ⟨house, compiled, later⟩ := bind_eq_ok.mp planned
  obtain ⟨_, housePlanned, same⟩ := bind_eq_ok.mp later
  cases same
  exact ⟨house, compiled, housePlanned⟩

/-- A run that plans a house and then checks it finds what the check finds. -/
theorem HousePlan.exists_house_of_check {options : RenderOptions} {plan : HousePlan} {α : Type}
    {check : House → α} {rooms : List String} {found : α}
    (runs : (plan.artifacts options >>= fun planned => House.compile plan >>= fun house =>
      .ok (planned.1, check house)) = .ok (rooms, found)) :
    ∃ artifacts house, plan.artifacts options = .ok (rooms, artifacts) ∧
      House.compile plan = .ok house ∧ check house = found := by
  obtain ⟨planned, plannedOk, later⟩ := bind_eq_ok.mp runs
  obtain ⟨house, compiled, checked⟩ := bind_eq_ok.mp later
  obtain ⟨names, result⟩ := Prod.mk.inj (Except.ok.inj checked)
  exact ⟨planned.2, house, names ▸ plannedOk, compiled, result⟩

/-- A check of all planned rooms that ends with a single answer found it for one of them. -/
theorem HousePlan.exists_room_of_check {options : RenderOptions} {plan : HousePlan} {α : Type}
    {check : Room → RoomGroups → α} {rooms : List String} {found : α}
    (runs : (plan.artifacts options >>= fun planned => House.compile plan >>= fun house =>
      house.rooms.mapM fun room => RoomGroups.ofRoom room >>= fun groups =>
        .ok (planned.1, check room groups)) = .ok [(rooms, found)]) :
    ∃ artifacts house room groups, plan.artifacts options = .ok (rooms, artifacts) ∧
      House.compile plan = .ok house ∧ room ∈ house.rooms ∧ RoomGroups.ofRoom room = .ok groups ∧
      check room groups = found := by
  obtain ⟨planned, plannedOk, later⟩ := bind_eq_ok.mp runs
  obtain ⟨house, compiled, perRoom⟩ := bind_eq_ok.mp later
  obtain ⟨room, member, inRoom⟩ :=
    exists_related_of_mem (mapM_eq_ok_iff.mp perRoom) (List.mem_singleton_self _)
  obtain ⟨groups, assembled, checked⟩ := bind_eq_ok.mp inRoom
  obtain ⟨names, result⟩ := Prod.mk.inj (Except.ok.inj checked)
  exact ⟨planned.2, house, room, groups, names ▸ plannedOk, compiled, member, assembled, result⟩

end Homeplan
