import Homeplan.Config
import Homeplan.Proofs.Artifact.Layout
import Homeplan.Proofs.Artifact.TreeRefinement

namespace Homeplan

/-! How the artifacts of a house lie below the output directory.

The files of rooms never get in each other's way.  The registry goes to a path of the
configuration, so whether a layout is sound depends on that path alone.
-/

open FileTree

/-- The path leads down from the directory that it is relative to, by one name at least. -/
structure Path.StaysBelow (path : Path) : Prop where
  relative : path.isAbsolute = false
  noParent : ".." ∉ path.steps
  nonempty : path.steps ≠ []

/-- Neither path leads to the place of the other one, or through it. -/
def Path.Apart (first second : Path) : Prop :=
  ¬ first.steps <+: second.steps ∧ ¬ second.steps <+: first.steps

/-- Files at these paths stay below their directory.  No two of them are the same file, and none is
a folder above another one. -/
structure SoundLayout (paths : List Path) : Prop where
  below : ∀ path ∈ paths, path.StaysBelow
  apart : paths.Pairwise Path.Apart

instance (path : Path) : Decidable path.StaysBelow :=
  decidable_of_iff (path.isAbsolute = false ∧ ".." ∉ path.steps ∧ path.steps ≠ [])
    ⟨fun ⟨relative, noParent, nonempty⟩ => ⟨relative, noParent, nonempty⟩,
      fun below => ⟨below.relative, below.noParent, below.nonempty⟩⟩

instance : DecidableRel Path.Apart := fun _ _ => inferInstanceAs (Decidable (_ ∧ _))

instance (paths : List Path) : Decidable (SoundLayout paths) :=
  decidable_of_iff ((∀ path ∈ paths, path.StaysBelow) ∧ paths.Pairwise Path.Apart)
    ⟨fun ⟨below, apart⟩ => ⟨below, apart⟩, fun sound => ⟨sound.below, sound.apart⟩⟩

theorem Path.StaysBelow.of_components {path : Path} {names : List String}
    (named : path.components = names.map .name) (nonempty : names ≠ []) : path.StaysBelow := by
  have normal := isNormal_of_components named
  refine ⟨normal.relative, fun member => normal.isName_of_mem_steps member rfl, ?_⟩
  rw [steps_of_components named]
  exact nonempty

/-! ## Runs over a sound layout -/

theorem Path.StaysBelow.resolve_steps {path : Path} (below : path.StaysBelow) (start : Position) :
    resolve start path.steps = start ++ path.steps :=
  resolve_names (fun _ member above => below.noParent (above ▸ member)) start

theorem FileSystem.position_append (system : FileSystem) (root : Path) {path : Path}
    (below : path.StaysBelow) :
    system.position (root.append path) = system.position root ++ path.steps := by
  rw [position, FileSystem.steps_append system root below.relative, resolve_append,
    below.resolve_steps, position]

/-- What the file of an artifact holds once the artifact was taken. -/
def Artifact.contentAfter (artifact : Artifact) (former : Option ByteArray) : ByteArray :=
  match artifact.policy with
  | .overwrite => artifact.contents.toUTF8
  | .createOnly => former.getD artifact.contents.toUTF8

section FileMap

variable {place : Artifact → Position} {files after : FileMap} {artifact : Artifact}
  {outcomes : List (Artifact × WriteOutcome)}

theorem FileMap.write_at {outcome : WriteOutcome}
    (written : (FileMap.write place artifact).run files = (.ok outcome, after)) :
    after (place artifact) = some (artifact.contentAfter (files (place artifact))) := by
  rw [write_run] at written
  split at written
  · rename_i kept
    obtain ⟨createsOnly, present⟩ := Bool.and_eq_true_iff.mp kept
    obtain ⟨content, there⟩ := Option.isSome_iff_exists.mp present
    obtain ⟨-, rfl⟩ := Prod.mk.inj written
    simp [there, Artifact.contentAfter, of_decide_eq_true createsOnly]
  · rename_i replaced
    obtain ⟨-, rfl⟩ := Prod.mk.inj written
    rw [store, if_pos rfl, Artifact.contentAfter]
    cases policy : artifact.policy with
    | overwrite => rfl
    | createOnly =>
        have missing : files (place artifact) = none := by simpa [policy] using replaced
        rw [missing]
        rfl

theorem FileMap.takes_elsewhere (taken : (FileMap.write place).Takes files outcomes after)
    {position : Position} (elsewhere : position ∉ outcomes.map (place ·.1)) :
    after position = files position := by
  induction taken with
  | nothing => rfl
  | next first _ ih =>
      obtain ⟨notFirst, notLater⟩ := List.ne_and_not_mem_of_not_mem_cons elsewhere
      rw [ih notLater, FileMap.write_elsewhere first notFirst]

/-- A run over distinct places leaves in each file what its artifact alone would leave there. -/
theorem FileMap.takes_at (taken : (FileMap.write place).Takes files outcomes after)
    (distinct : (outcomes.map (place ·.1)).Nodup) (member : artifact ∈ outcomes.map (·.1)) :
    after (place artifact) = some (artifact.contentAfter (files (place artifact))) := by
  induction taken with
  | nothing => contradiction
  | @next before middle after first outcome rest written later ih =>
      obtain ⟨notLater, distinctLater⟩ := List.nodup_cons.mp distinct
      cases List.mem_cons.mp member with
      | inl same =>
          subst same
          rw [takes_elsewhere later notLater, write_at written]
      | inr further =>
          have elsewhere : place artifact ≠ place first := by
            intro same
            apply notLater
            obtain ⟨entry, inRest, rfl⟩ := List.mem_map.mp further
            exact List.mem_map.mpr ⟨entry, inRest, same⟩
          rw [ih distinctLater further, write_elsewhere written elsewhere]

end FileMap

/-- Wherever the output directory is, a run over these artifacts leaves in each file what its
artifact alone would leave there: none of them overwrites another one. -/
def NoneOverwritten (artifacts : List Artifact) : Prop :=
  ∀ (system : FileSystem) (root : Path) (files : FileMap)
    (outcomes : List (Artifact × WriteOutcome)) (after : FileMap),
    outcomes.map (·.1) = artifacts →
    (FileMap.write fun artifact => system.position (root.append artifact.path)).Takes
      files outcomes after →
    ∀ artifact ∈ artifacts, after (system.position (root.append artifact.path)) =
      some (artifact.contentAfter (files (system.position (root.append artifact.path))))

namespace SoundLayout

variable {artifacts : List Artifact}

/-- Wherever the output directory is, no artifact comes to the place of another one. -/
theorem positions_distinct (sound : SoundLayout (artifacts.map (·.path))) (system : FileSystem)
    (root : Path) :
    (artifacts.map fun artifact => system.position (root.append artifact.path)).Nodup := by
  have apart := List.pairwise_map.mp sound.apart
  refine List.pairwise_map.mpr (apart.imp_of_mem fun firstMember secondMember pair same => ?_)
  rw [system.position_append root (sound.below _ (List.mem_map_of_mem firstMember)),
    system.position_append root (sound.below _ (List.mem_map_of_mem secondMember)),
    List.append_cancel_left_eq] at same
  exact pair.1 (same ▸ List.prefix_rfl)

theorem noneOverwritten (sound : SoundLayout (artifacts.map (·.path))) :
    NoneOverwritten artifacts := by
  intro system root files outcomes after all taken artifact member
  subst all
  have distinct := sound.positions_distinct system root
  rw [List.map_map] at distinct
  exact FileMap.takes_at taken distinct member

end SoundLayout

/-! ## The files of rooms -/

def Room.files (room : Room) : List Path := [room.modulePath, room.stubPath]

def Room.fileNames (room : Room) : List String :=
  [room.className ++ ".ts", room.customizationClass ++ ".ts"]

section

variable {room : Room} (valid : Room.isValidName room.shortName = true) {file : Path}
include valid

theorem Room.files_named : List.Forall₂
    (fun file name => file.components = [room.slug, name].map .name) room.files room.fileNames :=
  .cons (Room.modulePath_components valid) (.cons (Room.stubPath_components valid) .nil)

theorem Room.components_of_mem_files (member : file ∈ room.files) :
    ∃ name ∈ room.fileNames, file.components = [room.slug, name].map .name :=
  exists_related_of_mem (Room.files_named valid).flip member

theorem Room.exists_file_of_fileName {name : String} (member : name ∈ room.fileNames) :
    ∃ file ∈ room.files, file.steps = [room.slug, name] := by
  obtain ⟨file, ofRoom, named⟩ := exists_related_of_mem (Room.files_named valid) member
  exact ⟨file, ofRoom, Path.steps_of_components named⟩

theorem Room.staysBelow_of_mem_files (member : file ∈ room.files) : file.StaysBelow := by
  obtain ⟨name, _, named⟩ := Room.components_of_mem_files valid member
  exact .of_components named (List.cons_ne_nil _ _)

theorem Room.steps_of_mem_files (member : file ∈ room.files) :
    ∃ name ∈ room.fileNames, file.steps = [room.slug, name] := by
  obtain ⟨name, isFileName, named⟩ := Room.components_of_mem_files valid member
  exact ⟨name, isFileName, Path.steps_of_components named⟩

end

theorem House.files_apart {plan : HousePlan} {house : House}
    (compiled : House.compile plan = .ok house) :
    (house.rooms.flatMap Room.files).Pairwise Path.Apart := by
  have places : (house.rooms.flatMap Room.files).map (·.components) =
      house.rooms.flatMap Room.places := by
    rw [List.map_flatMap]
    rfl
  have distinct := House.room_places_nodup compiled
  rw [← places] at distinct
  have inHouse {file : Path} (member : file ∈ house.rooms.flatMap Room.files) :
      ∃ folder name, file.components = [folder, name].map .name := by
    obtain ⟨room, inRooms, ofRoom⟩ := List.mem_flatMap.mp member
    obtain ⟨name, _, named⟩ :=
      Room.components_of_mem_files (House.valid_of_compile compiled inRooms) ofRoom
    exact ⟨room.slug, name, named⟩
  apply (List.pairwise_map.mp distinct).imp_of_mem
  intro first second firstMember secondMember different
  obtain ⟨firstFolder, firstName, firstNamed⟩ := inHouse firstMember
  obtain ⟨secondFolder, secondName, secondNamed⟩ := inHouse secondMember
  rw [firstNamed, secondNamed] at different
  rw [Path.Apart, Path.steps_of_components firstNamed, Path.steps_of_components secondNamed]
  -- Both have two steps, so one could only lead through the other by being the same.
  constructor
  · exact fun before => different (congrArg _ (before.eq_of_length rfl))
  · exact fun before => different (congrArg _ (before.eq_of_length rfl).symm)

/-! ## The registry -/

/-- The registry stays below the output directory, is not the folder of a room, and is neither a
file of a room nor below one. -/
structure RenderOptions.RegistryApart (options : RenderOptions) (rooms : List Room) : Prop where
  below : (⟨options.registryFile⟩ : Path).StaysBelow
  notFolder : ∀ room ∈ rooms, (⟨options.registryFile⟩ : Path).steps ≠ [room.slug]
  notInFile : ∀ room ∈ rooms, ∀ name ∈ room.fileNames,
    ¬ [room.slug, name] <+: (⟨options.registryFile⟩ : Path).steps

theorem RenderOptions.registryApart_iff {options : RenderOptions} {rooms : List Room}
    (valid : ∀ room ∈ rooms, Room.isValidName room.shortName = true) :
    options.RegistryApart rooms ↔ (⟨options.registryFile⟩ : Path).StaysBelow ∧
      ∀ file ∈ rooms.flatMap Room.files, file.Apart ⟨options.registryFile⟩ := by
  constructor
  · intro registry
    refine ⟨registry.below, fun file member => ?_⟩
    obtain ⟨room, inRooms, ofRoom⟩ := List.mem_flatMap.mp member
    obtain ⟨name, isFileName, steps⟩ := Room.steps_of_mem_files (valid room inRooms) ofRoom
    have notThrough := registry.notInFile room inRooms name isFileName
    rw [Path.Apart, steps]
    refine ⟨notThrough, fun before => ?_⟩
    -- What leads to the file or through it is empty, the folder of the room, or the file itself.
    rcases List.prefix_cons_iff.mp before with empty | ⟨later, isLater, laterBefore⟩
    · exact registry.below.nonempty empty
    · rcases List.prefix_cons_iff.mp laterBefore with none | ⟨last, isLast, lastBefore⟩
      · exact registry.notFolder room inRooms (none ▸ isLater)
      · rw [isLater, isLast, List.prefix_nil.mp lastBefore] at notThrough
        exact notThrough List.prefix_rfl
  · intro apart
    obtain ⟨below, apart⟩ := apart
    refine ⟨below, fun room inRooms isFolder => ?_, fun room inRooms name isFileName => ?_⟩
    · have module : room.modulePath ∈ room.files := List.mem_cons_self
      obtain ⟨name, _, steps⟩ := Room.steps_of_mem_files (valid room inRooms) module
      apply (apart _ (List.mem_flatMap.mpr ⟨room, inRooms, module⟩)).2
      rw [isFolder, steps]
      exact ⟨[name], rfl⟩
    · obtain ⟨file, ofRoom, steps⟩ := Room.exists_file_of_fileName (valid room inRooms) isFileName
      rw [← steps]
      exact (apart file (List.mem_flatMap.mpr ⟨room, inRooms, ofRoom⟩)).1

/-- The name of a file right in the output directory, with a dot in it, is apart from all rooms. -/
theorem RenderOptions.registryApart_of_dotted {options : RenderOptions}
    (named : Path.IsName options.registryFile) (dotted : '.' ∈ options.registryFile.toList)
    {rooms : List Room} (valid : ∀ room ∈ rooms, Room.isValidName room.shortName = true) :
    options.RegistryApart rooms := by
  have components : (⟨options.registryFile⟩ : Path).components =
      [options.registryFile].map .name := named.components
  have steps := Path.steps_of_components components
  refine ⟨.of_components components (List.cons_ne_nil _ _), ?_, ?_⟩
  · intro room member isFolder
    have sameName : options.registryFile = room.slug := List.singleton_inj.mp (steps ▸ isFolder)
    apply Room.not_mem_slug (valid room member) Text.not_isAlphanumeric_dot (by decide) (by decide)
      (by decide)
    exact sameName ▸ dotted
  · intro room _ name _ before
    have lengths := before.length_le
    rw [steps] at lengths
    contradiction

theorem House.paths_of_artifacts {options : RenderOptions} {house : House}
    {artifacts : List Artifact} (planned : house.artifacts options = .ok artifacts) :
    artifacts.map (·.path) = house.rooms.flatMap Room.files ++ [⟨options.registryFile⟩] := by
  have layout := congrArg (List.map (·.1)) (House.layout_of_artifacts planned)
  rw [List.map_map, House.layout, List.map_append, List.map_flatMap] at layout
  exact layout

/-- Of all that a configuration can say, the layout of a house depends on the path of the registry
alone.  If the registry is apart from the rooms, the layout is sound, so that nothing is overwritten
in a run; otherwise it is not. -/
theorem House.layout_sound_iff (config : Config) {plan : HousePlan} {house : House}
    (compiled : House.compile plan = .ok house) {artifacts : List Artifact}
    (planned : house.artifacts config.renderOptions = .ok artifacts) :
    SoundLayout (artifacts.map (·.path)) ∧ NoneOverwritten artifacts ↔
      config.renderOptions.RegistryApart house.rooms := by
  have valid : ∀ room ∈ house.rooms, Room.isValidName room.shortName = true :=
    fun room member => House.valid_of_compile compiled member
  rw [and_iff_left_of_imp SoundLayout.noneOverwritten, House.paths_of_artifacts planned,
    RenderOptions.registryApart_iff valid]
  constructor
  · intro sound
    refine ⟨sound.below _ (List.mem_append_right _ (List.mem_singleton_self _)), ?_⟩
    intro file member
    exact (List.pairwise_append.mp sound.apart).2.2 file member _ (List.mem_singleton_self _)
  · intro registry
    obtain ⟨registryBelow, registryApart⟩ := registry
    constructor
    · intro path member
      cases List.mem_append.mp member with
      | inl ofRoom =>
          obtain ⟨room, inRooms, inRoom⟩ := List.mem_flatMap.mp ofRoom
          exact Room.staysBelow_of_mem_files (valid room inRooms) inRoom
      | inr isRegistry => exact List.mem_singleton.mp isRegistry ▸ registryBelow
    · refine List.pairwise_append.mpr
        ⟨House.files_apart compiled, List.pairwise_singleton _ _, ?_⟩
      intro file member path isRegistry
      exact List.mem_singleton.mp isRegistry ▸ registryApart file member

/-- A registry whose name begins like the folder of a room, next to two rooms whose short names
begin alike. -/
theorem House.layout_sound_with_registry_like_folder :
    let plan : HousePlan :=
      { rooms := [{ shortName := "Bad", longName := "Bad", floor := 1 },
          { shortName := "BadCustomization", longName := "Bad", floor := 1 }] }
    let config : Config := { paths := { registryFile := "1_Bad.ts" } }
    ∃ house artifacts, House.compile plan = .ok house ∧
      house.artifacts config.renderOptions = .ok artifacts ∧
      SoundLayout (artifacts.map (·.path)) ∧ NoneOverwritten artifacts := by
  intro plan config
  have runs : (House.compile plan >>= fun house => house.artifacts config.renderOptions >>=
      fun artifacts => .ok artifacts.length) = .ok 5 := by
    decide +kernel
  obtain ⟨house, compiled, later⟩ := bind_eq_ok.mp runs
  obtain ⟨artifacts, housePlanned, _⟩ := bind_eq_ok.mp later
  refine ⟨house, artifacts, compiled, housePlanned, ?_⟩
  apply (House.layout_sound_iff config compiled housePlanned).mpr
  apply RenderOptions.registryApart_of_dotted
  · exact .of_mem '_' (by decide) (by decide) (by decide)
  · decide
  · exact fun room member => House.valid_of_compile compiled member

/-- The check accepts a registry in the place of a stub, of the folder of a room, or outside of the
output directory. -/
theorem House.layout_unsound_with_valid_config :
    let plan : HousePlan := { rooms := [{ shortName := "Buero", longName := "Büro", floor := 1 }] }
    ∀ registryFile ∈ ["1_Buero/RoomBueroCustomization.ts", "1_Buero", "../Rooms.ts", "/Rooms.ts"],
      let config : Config := { paths := { registryFile } }
      config.validate = .ok () ∧ ∃ house artifacts, House.compile plan = .ok house ∧
        house.artifacts config.renderOptions = .ok artifacts ∧
        ¬ SoundLayout (artifacts.map (·.path)) := by
  intro plan registryFile member config
  have runs : ∀ registryFile ∈
      ["1_Buero/RoomBueroCustomization.ts", "1_Buero", "../Rooms.ts", "/Rooms.ts"],
      let config : Config := { paths := { registryFile } }
      config.validate = .ok () ∧ (House.compile plan >>= fun house =>
        house.artifacts config.renderOptions >>= fun artifacts =>
          .ok (decide (SoundLayout (artifacts.map (·.path))))) = .ok false := by
    decide +kernel
  obtain ⟨accepted, planned⟩ := runs registryFile member
  obtain ⟨house, compiled, later⟩ := bind_eq_ok.mp planned
  obtain ⟨artifacts, housePlanned, unsound⟩ := bind_eq_ok.mp later
  exact ⟨accepted, house, artifacts, compiled, housePlanned,
    of_decide_eq_false (Except.ok.inj unsound)⟩

end Homeplan
