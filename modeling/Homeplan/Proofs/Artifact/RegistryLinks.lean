import Homeplan.Proofs.Artifact.OutputLayout
import Homeplan.Proofs.TypeScript.Bindings

namespace Homeplan

/-! Whether the registry leads to the modules of the rooms.

The registry imports the rooms from folders beside itself.  The rooms have their folders in the
output directory, while the configuration says where the registry goes.  So the imports lead to the
rooms exactly if the registry is right in the output directory.
-/

open FileTree

namespace TypeScript

def Import.source : Import → String
  | .whole _ source => source
  | .named _ source => source

/-- The source begins with a dot or a double dot. -/
def isRelative (source : String) : Bool :=
  match Path.split source.toList with
  | first :: _ => first = ['.'] || first = ['.', '.']
  | [] => false

/-- The file that a relative source leads to from another file. -/
def targetOf (source : String) (importer : Position) : Position :=
  resolve importer.dropLast (⟨source ++ ".ts"⟩ : Path).steps

def Item.exported? : Item → Option String
  | .classDecl decl => some decl.name
  | .stmt _ => none

def Module.exported (module : Module) : List String := module.items.filterMap Item.exported?

/-- The class that a statement registers under its own name. -/
def Item.registered? : Item → Option String
  | .stmt (.expr (.call (.member (.ident "RoomImportEnforcer") "addRoomConstructor")
      [.member (.ident owner) "roomName", .ident registered])) =>
      if owner = registered then some registered else none
  | _ => none

def Module.registered (module : Module) : List String := module.items.filterMap Item.registered?

end TypeScript

open TypeScript

/-- Where a run puts an artifact. -/
def Config.placeOf (config : Config) (system : FileSystem) (path : Path) : Position :=
  system.position (config.paths.outputDirectory.append path)

def Config.registryPlace (config : Config) (system : FileSystem) : Position :=
  config.placeOf system ⟨config.paths.registryFile⟩

/-- An import in the registry leads to the module of a room. -/
def Config.LeadsTo (config : Config) (system : FileSystem) (link : Import) (room : Room) : Prop :=
  isRelative link.source = true ∧
    targetOf link.source (config.registryPlace system) = config.placeOf system room.modulePath

instance (config : Config) (system : FileSystem) (link : Import) (room : Room) :
    Decidable (config.LeadsTo system link room) :=
  inferInstanceAs (Decidable (_ ∧ _))

/-- The registry of a house leads to what is planned for its rooms. -/
structure RegistryLinks (system : FileSystem) (config : Config) (house : House)
    (artifacts : List Artifact) : Prop where
  planned : registryArtifact house.rooms config.renderOptions ∈ artifacts
  /-- A relative import leads to one room only, whose module exports what is imported. -/
  leads : ∀ link ∈ (registryModule house.rooms config.renderOptions).imports,
    isRelative link.source = true → ∃ room ∈ house.rooms,
      (∀ other ∈ house.rooms, config.LeadsTo system link other ↔ other = room) ∧
      ∃ groups, RoomGroups.ofRoom room = .ok groups ∧
        room.moduleArtifact groups config.renderOptions ∈ artifacts ∧
        ∀ name ∈ link.names, name ∈ (room.toModule groups config.renderOptions).exported
  importedOnce : ∀ room ∈ house.rooms,
    (registryModule house.rooms config.renderOptions).imports.countP
      (config.LeadsTo system · room) = 1
  registered : (registryModule house.rooms config.renderOptions).registered =
    house.rooms.map (·.className)
  registeredOnce : (registryModule house.rooms config.renderOptions).registered.Nodup

/-! ## What the modules declare -/

theorem Room.exported_toModule (room : Room) (groups : RoomGroups) (options : RenderOptions) :
    (room.toModule groups options).exported = [room.className] := by
  have trailing : (room.trailing.map Item.stmt).filterMap Item.exported? = [] := by
    rw [List.filterMap_map]
    exact List.filterMap_eq_nil_iff.mpr fun _ _ => rfl
  show room.className :: (room.trailing.map Item.stmt).filterMap Item.exported? = _
  rw [trailing]

theorem Room.registered_registration (room : Room) :
    (Item.stmt room.registration).registered? = some room.className := by
  simp [Item.registered?, Room.registration, Expr.path]

theorem registered_registryModule (rooms : List Room) (options : RenderOptions) :
    (registryModule rooms options).registered = rooms.map (·.className) := by
  have each : Item.registered? ∘ (fun room => .stmt room.registration) =
      some ∘ fun room : Room => room.className :=
    funext Room.registered_registration
  rw [Module.registered, registryModule, List.filterMap_map, each, List.filterMap_eq_map]

def RenderOptions.runtimeImport (options : RenderOptions) : Import :=
  .named ["RoomImportEnforcer"] options.runtimeModule

theorem imports_registryModule (rooms : List Room) (options : RenderOptions) :
    (registryModule rooms options).imports =
      options.runtimeImport :: rooms.map Room.registryImport :=
  rfl

/-! ## Links to rooms -/

section

variable {room : Room} (valid : Room.isValidName room.shortName = true)
include valid

theorem Room.modulePath_steps : room.modulePath.steps = [room.slug, room.className ++ ".ts"] :=
  Path.steps_of_components (Room.modulePath_components valid)

theorem Room.placeOf_module (config : Config) (system : FileSystem) :
    config.placeOf system room.modulePath =
      system.position config.paths.outputDirectory ++ room.modulePath.steps :=
  system.position_append _ (Room.staysBelow_of_mem_files valid List.mem_cons_self)

theorem Room.targetOf_registryImport (importer : Position) :
    targetOf room.registryImport.source importer =
      importer.dropLast ++ room.modulePath.steps := by
  have text : room.registryImport.source ++ ".ts" =
      "./" ++ (room.slug ++ "/" ++ (room.className ++ ".ts")) := by
    simp [Room.registryImport, Import.source, String.append_assoc]
  have path : room.modulePath = ⟨room.slug ++ "/" ++ (room.className ++ ".ts")⟩ :=
    Path.append_names (Room.slug_isName valid) (Room.moduleName_isName valid)
  have below : room.modulePath.StaysBelow := Room.staysBelow_of_mem_files valid List.mem_cons_self
  rw [targetOf, text, Path.steps_here, ← path, below.resolve_steps]

end

theorem Room.isRelative_registryImport (room : Room) :
    isRelative room.registryImport.source = true := by
  have text : room.registryImport.source = "./" ++ (room.slug ++ "/" ++ room.className) := by
    simp [Room.registryImport, Import.source, String.append_assoc]
  rw [isRelative, text, Path.split_here]
  rfl

section

variable {plan : HousePlan} {house : House} (compiled : House.compile plan = .ok house)
  {room other : Room} (member : room ∈ house.rooms) (otherMember : other ∈ house.rooms)
include compiled member otherMember

theorem House.room_eq_of_shortName (same : other.shortName = room.shortName) : other = room :=
  List.inj_on_of_nodup_map (House.roomNames_nodup compiled) otherMember member same

theorem House.room_eq_of_modulePath (same : other.modulePath.steps = room.modulePath.steps) :
    other = room := by
  rw [Room.modulePath_steps (House.valid_of_compile compiled otherMember),
    Room.modulePath_steps (House.valid_of_compile compiled member)] at same
  apply House.room_eq_of_shortName compiled member otherMember
  exact (Room.slug_inj (List.cons.inj same).1).2

/-- From a registry right in the output directory, the import of a room leads to that room only. -/
theorem House.leadsTo_registryImport_iff {config : Config} {system : FileSystem}
    (beside : (config.registryPlace system).dropLast =
      system.position config.paths.outputDirectory) :
    config.LeadsTo system room.registryImport other ↔ other = room := by
  rw [Config.LeadsTo, Room.targetOf_registryImport (House.valid_of_compile compiled member),
    Room.placeOf_module (House.valid_of_compile compiled otherMember), beside,
    List.append_cancel_left_eq]
  constructor
  · intro leads
    exact House.room_eq_of_modulePath compiled member otherMember leads.2.symm
  · rintro rfl
    exact ⟨Room.isRelative_registryImport _, rfl⟩

end

namespace RegistryLinks

variable {system : FileSystem} {config : Config} {plan : HousePlan} {house : House}
  {artifacts : List Artifact}

/-- A relative import that takes the class of a room leads to that room. -/
theorem leadsTo_of_names (links : RegistryLinks system config house artifacts)
    (compiled : House.compile plan = .ok house) {room : Room} (member : room ∈ house.rooms)
    {link : Import}
    (inRegistry : link ∈ (registryModule house.rooms config.renderOptions).imports)
    (relative : isRelative link.source = true) (taken : room.className ∈ link.names) :
    config.LeadsTo system link room := by
  obtain ⟨found, inHouse, only, groups, _, _, exports⟩ := links.leads link inRegistry relative
  have exported := exports _ taken
  rw [Room.exported_toModule, List.mem_singleton] at exported
  have sameName : found.shortName = room.shortName :=
    ((String.append_right_inj "Room").mp exported).symm
  obtain rfl := House.room_eq_of_shortName compiled member inHouse sameName
  exact (only found inHouse).mpr rfl

theorem beside (links : RegistryLinks system config house artifacts)
    (compiled : House.compile plan = .ok house) {room : Room} (member : room ∈ house.rooms) :
    (config.registryPlace system).dropLast = system.position config.paths.outputDirectory := by
  have inRegistry : room.registryImport ∈
      (registryModule house.rooms config.renderOptions).imports :=
    List.mem_cons_of_mem _ (List.mem_map_of_mem member)
  have leads := links.leadsTo_of_names compiled member inRegistry
    (Room.isRelative_registryImport room) (List.mem_singleton_self _)
  have valid := House.valid_of_compile compiled member
  have same := leads.2
  rw [Room.targetOf_registryImport valid, Room.placeOf_module valid] at same
  exact List.append_cancel_right same

theorem runtime_not_relative (links : RegistryLinks system config house artifacts)
    (compiled : House.compile plan = .ok house) : isRelative config.runtimeModule = false := by
  apply Bool.eq_false_iff.mpr
  intro relative
  have first : config.renderOptions.runtimeImport ∈
      (registryModule house.rooms config.renderOptions).imports := List.mem_cons_self
  obtain ⟨room, member, only, _, _, _, exports⟩ := links.leads _ first relative
  have exported := exports _ (List.mem_singleton_self _)
  rw [Room.exported_toModule, List.mem_singleton] at exported
  -- The room has the name of the runtime type, so the runtime import and its own lead to it.
  have runtimeLeads := (only room member).mpr rfl
  have ownLeads := (House.leadsTo_registryImport_iff compiled member member
    (links.beside compiled member)).mpr rfl
  have once := links.importedOnce room member
  have others : 0 < (house.rooms.map Room.registryImport).countP
      (config.LeadsTo system · room) :=
    List.countP_pos_iff.mpr ⟨_, List.mem_map_of_mem member, decide_eq_true ownLeads⟩
  rw [imports_registryModule, List.countP_cons, if_pos (decide_eq_true runtimeLeads)]
    at once
  omega

end RegistryLinks

/-- From a registry right in the output directory, one import leads to each room. -/
theorem House.countP_leadsTo {config : Config} {system : FileSystem} {plan : HousePlan}
    {house : House} (compiled : House.compile plan = .ok house)
    (beside : (config.registryPlace system).dropLast =
      system.position config.paths.outputDirectory) {room : Room} (member : room ∈ house.rooms) :
    (house.rooms.map Room.registryImport).countP (config.LeadsTo system · room) = 1 := by
  have sameNames : ∀ other ∈ house.rooms,
      decide (config.LeadsTo system other.registryImport room) = true ↔
        (other.shortName == room.shortName) = true := by
    intro other otherMember
    rw [decide_eq_true_iff, beq_iff_eq,
      House.leadsTo_registryImport_iff compiled otherMember member beside]
    constructor
    · rintro rfl
      rfl
    · intro same
      exact House.room_eq_of_shortName compiled otherMember member same.symm
  have once : house.rooms.countP (fun other => other.shortName == room.shortName) = 1 := by
    have counted := List.count_eq_one_of_mem (House.roomNames_nodup compiled)
      (List.mem_map_of_mem member)
    rw [List.count, List.countP_map] at counted
    exact counted
  rw [List.countP_map, ← once]
  exact List.countP_congr sameNames

/-- A registry whose path is a mere name is right in the output directory. -/
theorem Config.registry_beside (config : Config) (system : FileSystem)
    (named : Path.IsName config.paths.registryFile) :
    (config.registryPlace system).dropLast = system.position config.paths.outputDirectory := by
  have components : (⟨config.paths.registryFile⟩ : Path).components =
      [config.paths.registryFile].map .name := named.components
  have below := Path.StaysBelow.of_components components (List.cons_ne_nil _ _)
  rw [Config.registryPlace, Config.placeOf, system.position_append _ below,
    Path.steps_of_components components]
  exact List.dropLast_concat

/-- The registry leads to what is planned exactly if it is right in the output directory, unless
there are no rooms, and the runtime is no relative import. -/
theorem House.registry_links_iff (system : FileSystem) (config : Config) {plan : HousePlan}
    {house : House} (compiled : House.compile plan = .ok house) {artifacts : List Artifact}
    (planned : house.artifacts config.renderOptions = .ok artifacts) :
    RegistryLinks system config house artifacts ↔
      (house.rooms ≠ [] → (config.registryPlace system).dropLast =
        system.position config.paths.outputDirectory) ∧
      isRelative config.runtimeModule = false := by
  constructor
  · intro links
    refine ⟨fun nonempty => ?_, links.runtime_not_relative compiled⟩
    obtain ⟨room, member⟩ := List.exists_mem_of_ne_nil _ nonempty
    exact links.beside compiled member
  · intro placed
    obtain ⟨beside, notRelative⟩ := placed
    have notRuntime : ¬ isRelative config.renderOptions.runtimeImport.source = true :=
      Bool.eq_false_iff.mp notRelative
    refine ⟨House.registry_planned planned, ?_, ?_, registered_registryModule .., ?_⟩
    · intro link inRegistry relative
      cases List.mem_cons.mp inRegistry with
      | inl isRuntime =>
          subst isRuntime
          exact absurd relative notRuntime
      | inr ofRoom =>
          obtain ⟨room, member, rfl⟩ := List.mem_map.mp ofRoom
          obtain ⟨groups, assembled, modulePlanned⟩ := House.module_planned planned member
          refine ⟨room, member, fun other otherMember => ?_, groups, assembled, modulePlanned, ?_⟩
          · exact House.leadsTo_registryImport_iff compiled member otherMember
              (beside (List.ne_nil_of_mem member))
          · rw [Room.exported_toModule]
            exact fun _ => id
    · intro room member
      have notLeading : ¬ decide
          (config.LeadsTo system config.renderOptions.runtimeImport room) = true :=
        fun leads => notRuntime (of_decide_eq_true leads).1
      rw [imports_registryModule, List.countP_cons, if_neg notLeading]
      exact House.countP_leadsTo compiled (beside (List.ne_nil_of_mem member)) member
    · rw [registered_registryModule]
      exact Room.classNames_nodup (House.roomNames_nodup compiled)

/-- A room whose class is called like the runtime type that rooms are registered with, and an output
directory that is reached by going up. -/
theorem House.registry_links_with_runtime_name :
    let plan : HousePlan :=
      { rooms := [{ shortName := "ImportEnforcer", longName := "Flur", floor := 0 },
          { shortName := "Bad", longName := "Bad", floor := 1 }] }
    let system : FileSystem := { root := .folder [], working := ["srv", "home"] }
    let config : Config :=
      { paths := { outputDirectory := ⟨"../src/rooms/"⟩, registryFile := "Rooms.ts" } }
    ∃ house artifacts, House.compile plan = .ok house ∧
      house.artifacts config.renderOptions = .ok artifacts ∧
      RegistryLinks system config house artifacts := by
  intro plan system config
  have runs : (House.compile plan >>= fun house => house.artifacts config.renderOptions >>=
      fun artifacts => .ok artifacts.length) = .ok 5 := by
    decide +kernel
  obtain ⟨house, compiled, later⟩ := bind_eq_ok.mp runs
  obtain ⟨artifacts, planned, _⟩ := bind_eq_ok.mp later
  refine ⟨house, artifacts, compiled, planned, ?_⟩
  apply (House.registry_links_iff system config compiled planned).mpr
  constructor
  · intro _
    apply config.registry_beside
    exact .of_mem 'R' (by decide) (by decide) (by decide)
  · decide +kernel

/-- The check accepts a registry in a folder of its own, from where no import leads to a room. -/
theorem House.registry_links_broken_in_folder :
    let plan : HousePlan := { rooms := [{ shortName := "Buero", longName := "Büro", floor := 1 }] }
    let system : FileSystem := { root := .folder [], working := [] }
    let config : Config := { paths := { registryFile := "gen/Rooms.ts" } }
    config.validate = .ok () ∧ ∃ house artifacts, House.compile plan = .ok house ∧
      house.artifacts config.renderOptions = .ok artifacts ∧
      ¬ RegistryLinks system config house artifacts := by
  intro plan system config
  have runs : (House.compile plan >>= fun house => house.artifacts config.renderOptions >>=
      fun _ => .ok house.rooms.length) = .ok 1 := by
    decide +kernel
  obtain ⟨house, compiled, later⟩ := bind_eq_ok.mp runs
  obtain ⟨artifacts, planned, oneRoom⟩ := bind_eq_ok.mp later
  refine ⟨by decide +kernel, house, artifacts, compiled, planned, fun links => ?_⟩
  have elsewhere : (config.registryPlace system).dropLast ≠
      system.position config.paths.outputDirectory := by
    decide +kernel
  obtain ⟨room, member⟩ := List.exists_mem_of_length_pos
    (Nat.lt_of_lt_of_eq Nat.zero_lt_one (Except.ok.inj oneRoom).symm)
  exact elsewhere (links.beside compiled member)

end Homeplan
