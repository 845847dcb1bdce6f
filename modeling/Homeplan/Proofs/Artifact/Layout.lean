import Homeplan.Proofs.Artifact.Stubs

namespace Homeplan

/-! Where the artifacts of a house go.

Every room has a folder of its own, with two files; the registry is in no folder.  So no artifact
has the place of another one.
-/

/-- The files of a room, with their policies. -/
def Room.layout (room : Room) : List (Path × WritePolicy) :=
  [(room.modulePath, .overwrite), (room.stubPath, .createOnly)]

/-- The files of a house, with their policies, in the order in which they are planned. -/
def House.layout (house : House) (options : RenderOptions) : List (Path × WritePolicy) :=
  house.rooms.flatMap Room.layout ++ [(⟨options.registryFile⟩, .overwrite)]

theorem layout_of_rooms {options : RenderOptions} {rooms : List Room}
    {perRoom : List (List Artifact)}
    (planned : List.Forall₂ (fun room artifacts => Room.artifacts options room = .ok artifacts)
      rooms perRoom) :
    perRoom.flatten.map (fun artifact => (artifact.path, artifact.policy)) =
      rooms.flatMap Room.layout := by
  induction planned with
  | nil => rfl
  | cons first _ ih =>
      obtain ⟨groups, _, rfl⟩ := Room.artifacts_eq_ok_iff.mp first
      rw [List.flatten_cons, List.map_append, ih, List.flatMap_cons]
      rfl

/-- The artifacts of a house follow its layout. -/
theorem House.layout_of_artifacts {options : RenderOptions} {house : House}
    {artifacts : List Artifact} (planned : house.artifacts options = .ok artifacts) :
    artifacts.map (fun artifact => (artifact.path, artifact.policy)) = house.layout options := by
  obtain ⟨perRoom, rooms, rfl⟩ := House.artifacts_eq_ok_iff.mp planned
  rw [List.map_append, layout_of_rooms rooms]
  rfl

theorem House.paths_of_policy {options : RenderOptions} {house : House} {artifacts : List Artifact}
    (planned : house.artifacts options = .ok artifacts) (policy : WritePolicy) :
    (artifacts.filter (·.policy = policy)).map (·.path) =
      ((house.layout options).filter (·.2 = policy)).map (·.1) := by
  rw [← House.layout_of_artifacts planned, List.filter_map, List.map_map]
  rfl

theorem House.layout_overwrite (house : House) (options : RenderOptions) :
    ((house.layout options).filter (·.2 = .overwrite)).map (·.1) =
      house.rooms.map Room.modulePath ++ [⟨options.registryFile⟩] := by
  have rooms : (house.rooms.flatMap Room.layout).filter (·.2 = .overwrite) =
      house.rooms.map fun room => (room.modulePath, .overwrite) := by
    rw [List.filter_flatMap, List.map_eq_flatMap]
    rfl
  rw [House.layout, List.filter_append, rooms, List.map_append, List.map_map]
  rfl

theorem House.layout_createOnly (house : House) (options : RenderOptions) :
    ((house.layout options).filter (·.2 = .createOnly)).map (·.1) =
      house.rooms.map Room.stubPath := by
  have rooms : (house.rooms.flatMap Room.layout).filter (·.2 = .createOnly) =
      house.rooms.map fun room => (room.stubPath, .createOnly) := by
    rw [List.filter_flatMap, List.map_eq_flatMap]
    rfl
  rw [House.layout, List.filter_append, rooms, List.map_append, List.map_map]
  exact List.append_nil _

/-! ## Places -/

def Room.places (room : Room) : List (List Path.Component) :=
  [room.modulePath.components, room.stubPath.components]

section

variable {room : Room} (valid : Room.isValidName room.shortName = true)
include valid

theorem Room.places_nodup : room.places.Nodup :=
  List.nodup_cons.mpr
    ⟨by simpa using Room.modulePath_ne_stubPath valid valid, List.nodup_singleton _⟩

theorem Room.folder_of_mem_places {place : List Path.Component} (member : place ∈ room.places) :
    ∃ file, place = [.name room.slug, .name file] := by
  rw [Room.places, Room.modulePath_components valid, Room.stubPath_components valid] at member
  simp only [List.mem_cons, List.not_mem_nil, or_false] at member
  rcases member with rfl | rfl
  · exact ⟨_, rfl⟩
  · exact ⟨_, rfl⟩

end

/-- No two files of rooms have the same place. -/
theorem House.room_places_nodup {plan : HousePlan} {house : House}
    (compiled : House.compile plan = .ok house) : (house.rooms.flatMap Room.places).Nodup := by
  have valid : ∀ room ∈ house.rooms, Room.isValidName room.shortName = true :=
    fun room member => House.valid_of_compile compiled member
  have apart : house.rooms.Pairwise fun left right => left.shortName ≠ right.shortName :=
    List.pairwise_map.mp (House.roomNames_nodup compiled)
  refine List.nodup_flatMap.mpr ⟨fun room member => Room.places_nodup (valid room member), ?_⟩
  refine apart.imp_of_mem fun leftMember rightMember names place inLeft inRight => ?_
  obtain ⟨_, rfl⟩ := Room.folder_of_mem_places (valid _ leftMember) inLeft
  obtain ⟨_, same⟩ := Room.folder_of_mem_places (valid _ rightMember) inRight
  simp only [List.cons.injEq, Path.Component.name.injEq] at same
  exact names (Room.slug_inj same.1).2

/-- No two artifacts of a house have the same place. -/
theorem House.places_nodup {options : RenderOptions} (plain : options.RegistryIsPlain)
    {plan : HousePlan} {house : House} (compiled : House.compile plan = .ok house)
    {artifacts : List Artifact} (planned : house.artifacts options = .ok artifacts) :
    (artifacts.map (·.path.components)).Nodup := by
  have places : artifacts.map (·.path.components) =
      house.rooms.flatMap Room.places ++ [(⟨options.registryFile⟩ : Path).components] := by
    have layout := congrArg (List.map fun file => file.1.components)
      (House.layout_of_artifacts planned)
    rw [List.map_map, House.layout, List.map_append, List.map_flatMap] at layout
    exact layout
  rw [places, List.nodup_append]
  refine ⟨House.room_places_nodup compiled, List.nodup_singleton _, ?_⟩
  -- A file in a folder has two components, the registry has one.
  intro place inRooms registry isRegistry same
  obtain ⟨room, member, ofRoom⟩ := List.mem_flatMap.mp inRooms
  obtain ⟨file, rfl⟩ :=
    Room.folder_of_mem_places (House.valid_of_compile compiled member) ofRoom
  obtain rfl := List.mem_singleton.mp isRegistry
  have lengths := congrArg List.length same
  have two : 2 = 1 := lengths.trans plain
  contradiction

end Homeplan
