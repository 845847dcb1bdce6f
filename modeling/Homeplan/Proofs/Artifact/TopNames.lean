import Homeplan.Proofs.Artifact.References
import Homeplan.Proofs.TypeScript.Bindings

namespace Homeplan

/-! The names that planned modules bind at their top.

The class of a room is called after the room, and so are the imports of its stub and of the registry.
The runtime has types of such names too, so whether the names of a module are distinct depends on
what its room is called.
-/

open TypeScript

theorem DeviceClass.importName_injective {left right : DeviceClass}
    (same : left.importName = right.importName) : left = right := by
  revert same
  cases left <;> cases right <;> decide

theorem GroupKind.mem_all (kind : GroupKind) : kind ∈ GroupKind.all := by
  cases kind <;> decide

namespace Room

def commonNames : List String :=
  ["BaseGroup", "GroupType", "RoomBase", "RoomInitializationSettings", "RoomService",
    "RoomSettings"]

/-- Every runtime name that the module of some room imports. -/
def runtimeVocabulary : List String :=
  commonNames ++ "Devices" :: GroupKind.all.map groupClass ++ ["DeviceType", "RoomDeviceAddingSettings"]

/-- The class of the room has the name of a runtime type that its module imports. -/
def NamedLikeImport (room : Room) : Prop :=
  room.shortName ∈ ["Base", "InitializationSettings", "Service", "Settings"] ∨
    (room.hasManagedDevices = true ∧ room.shortName = "DeviceAddingSettings")

instance (room : Room) : Decidable room.NamedLikeImport := inferInstanceAs (Decidable (_ ∨ _))

variable {room : Room} {groups : RoomGroups} {options : RenderOptions} {name : String}

theorem mem_runtimeNames_iff :
    name ∈ room.runtimeNames groups ↔
      name ∈ commonNames ∨ (room.busDevices ≠ [] ∧ name = "Devices") ∨
        (∃ kind ∈ groups.kinds, groupClass kind = name) ∨
        (room.hasManagedDevices = true ∧ name ∈ ["DeviceType", "RoomDeviceAddingSettings"]) := by
  have used : name ∈ room.runtimeNames groups ↔
      name ∈ commonNames ++ (if room.busDevices.isEmpty then [] else ["Devices"]) ++
        groups.kinds.map groupClass ++
        (if room.hasManagedDevices then ["DeviceType", "RoomDeviceAddingSettings"] else []) := by
    rw [runtimeNames, SortedMap.mem_keys_ofList, List.map_map]
    exact iff_of_eq (congrArg (name ∈ ·) (List.map_id _))
  have devices : name ∈ (if room.busDevices.isEmpty then [] else ["Devices"]) ↔
      room.busDevices ≠ [] ∧ name = "Devices" := by
    cases room.busDevices <;> simp
  have managed :
      name ∈ (if room.hasManagedDevices then ["DeviceType", "RoomDeviceAddingSettings"] else []) ↔
      room.hasManagedDevices = true ∧ name ∈ ["DeviceType", "RoomDeviceAddingSettings"] := by
    cases room.hasManagedDevices <;> simp
  rw [used]
  simp only [List.mem_append, devices, managed, List.mem_map, or_assoc]

theorem mem_runtimeVocabulary (imported : name ∈ room.runtimeNames groups) :
    name ∈ runtimeVocabulary := by
  simp only [runtimeVocabulary, List.mem_append, List.mem_cons]
  rcases mem_runtimeNames_iff.mp imported with common | ⟨_, rfl⟩ | ⟨kind, _, rfl⟩ | ⟨_, managed⟩
  · exact Or.inl (Or.inl common)
  · exact Or.inl (Or.inr (Or.inl rfl))
  · exact Or.inl (Or.inr (Or.inr (List.mem_map_of_mem (GroupKind.mem_all kind))))
  · exact Or.inr (by simpa using managed)

theorem mem_deviceClasses_iff {deviceClass : DeviceClass} :
    deviceClass ∈ room.deviceClasses ↔ ∃ device ∈ room.devices, device.deviceClass = deviceClass := by
  have listed : deviceClass ∈ DeviceClass.all := by cases deviceClass <;> decide
  simp [deviceClasses, listed]

theorem declared_trailing :
    room.trailing.flatMap Stmt.declared =
      if room.hasManagedDevices then ["deviceAddingSettings"] else [] := by
  have adding (devices : List Device) :
      (devices.map room.addDeviceStmt).flatMap Stmt.declared = [] := by
    rw [List.flatMap_map, List.flatMap_eq_nil_iff]
    exact fun _ _ => rfl
  unfold trailing
  cases room.hasManagedDevices <;> simp [Stmt.declared, adding]

theorem topNames_toModule :
    (room.toModule groups options).topNames =
      room.deviceClasses.map (·.importName) ++ (room.runtimeNames groups ++
        (room.customizationClass :: room.className ::
          if room.hasManagedDevices then ["deviceAddingSettings"] else [])) := by
  have families : (room.deviceClasses.map fun deviceClass =>
      Import.whole deviceClass.importName (options.classModule deviceClass)).flatMap Import.names =
      room.deviceClasses.map (·.importName) := by
    rw [List.flatMap_map, List.map_eq_flatMap]
    rfl
  rw [← declared_trailing]
  simp [Module.topNames, toModule, imports, families, Import.names, Item.declared, classDecl,
    List.flatMap_map]

theorem mem_topNames_iff :
    name ∈ (room.toModule groups options).topNames ↔
      (∃ device ∈ room.devices, device.deviceClass.importName = name) ∨
        name ∈ room.runtimeNames groups ∨ name = room.customizationClass ∨
        name = room.className ∨ (room.hasManagedDevices = true ∧ name = "deviceAddingSettings") := by
  rw [topNames_toModule]
  cases room.hasManagedDevices <;> simp [mem_deviceClasses_iff]

/-! ## The module of a room -/

theorem className_eq_iff {type rest : String} (named : type = "Room" ++ rest) :
    room.className = type ↔ room.shortName = rest := by
  rw [named]
  exact String.append_right_inj "Room"

theorem className_mem_commonNames_iff :
    room.className ∈ commonNames ↔
      room.shortName ∈ ["Base", "InitializationSettings", "Service", "Settings"] := by
  have group : room.className ≠ "BaseGroup" := (ne_className (by decide)).symm
  have key : room.className ≠ "GroupType" := (ne_className (by decide)).symm
  have base : room.className = "RoomBase" ↔ room.shortName = "Base" := className_eq_iff rfl
  have initial : room.className = "RoomInitializationSettings" ↔
      room.shortName = "InitializationSettings" := className_eq_iff rfl
  have service : room.className = "RoomService" ↔ room.shortName = "Service" := className_eq_iff rfl
  have settings : room.className = "RoomSettings" ↔ room.shortName = "Settings" :=
    className_eq_iff rfl
  simp only [commonNames, List.mem_cons, List.not_mem_nil, group, key, base, initial, service,
    settings, false_or, or_false]

theorem className_mem_runtimeNames_iff :
    room.className ∈ room.runtimeNames groups ↔ room.NamedLikeImport := by
  have devices : room.className ≠ "Devices" := (ne_className (by decide)).symm
  have kinds (kind : GroupKind) : groupClass kind ≠ room.className := by
    refine ne_className ?_
    cases kind <;> decide
  have type : room.className ≠ "DeviceType" := (ne_className (by decide)).symm
  have adding : room.className = "RoomDeviceAddingSettings" ↔
      room.shortName = "DeviceAddingSettings" := className_eq_iff rfl
  simp only [mem_runtimeNames_iff, className_mem_commonNames_iff, List.mem_cons, List.not_mem_nil,
    devices, kinds, type, adding, and_false, exists_false, false_or, or_false, NamedLikeImport]

/-- The families of devices are imported by names that nothing else in the module has. -/
theorem importName_apart (room : Room) (groups : RoomGroups) (deviceClass : DeviceClass) :
    deviceClass.importName ∉ room.runtimeNames groups ∧
      deviceClass.importName ≠ room.customizationClass ∧
      deviceClass.importName ≠ room.className ∧
      deviceClass.importName ≠ "deviceAddingSettings" := by
  have start : ¬ "Room".toList <+: deviceClass.importName.toList := by
    cases deviceClass <;> decide
  refine ⟨fun imported => ?_, fun same => ?_, ne_className start, ?_⟩
  · have known := mem_runtimeVocabulary imported
    revert known
    cases deviceClass <;> decide
  · exact start (by simp [same, customizationClass, className])
  · cases deviceClass <;> decide

theorem customizationClass_not_mem_runtimeNames :
    room.customizationClass ∉ room.runtimeNames groups := by
  have others : ∀ name ∈ runtimeVocabulary, ¬ "Customization".toList <:+ name.toList := by decide
  intro imported
  exact others _ (mem_runtimeVocabulary imported) (by simp [customizationClass])

/-- The names at the top of a room's module are distinct unless its class is called like a runtime
type that the module imports. -/
theorem topNames_toModule_nodup_iff :
    (room.toModule groups options).topNames.Nodup ↔ ¬ room.NamedLikeImport := by
  have families : (room.deviceClasses.map (·.importName)).Nodup := by
    refine List.Nodup.map (fun _ _ => DeviceClass.importName_injective) ?_
    exact List.Nodup.filter _ (by decide)
  have runtime : (room.runtimeNames groups).Nodup := SortedMap.keys_nodup _
  have adding : ∀ name ∈ (if room.hasManagedDevices then ["deviceAddingSettings"] else []),
      name = "deviceAddingSettings" := by
    cases room.hasManagedDevices <;> simp
  have addingClass : "deviceAddingSettings" ≠ room.className := ne_className (by decide)
  have addingStub : "deviceAddingSettings" ≠ room.customizationClass := by
    intro same
    have texts := congrArg String.toList same
    simp [customizationClass, className] at texts
  have own : (room.customizationClass :: room.className ::
      if room.hasManagedDevices then ["deviceAddingSettings"] else []).Nodup := by
    simp only [List.nodup_cons, List.mem_cons, not_or]
    refine ⟨⟨customizationClass_ne_className room, ?_⟩, ?_, ?_⟩
    · exact fun member => addingStub (adding _ member).symm
    · exact fun member => addingClass (adding _ member).symm
    · cases room.hasManagedDevices <;> simp
  have familiesApart : (room.deviceClasses.map (·.importName)).Disjoint
      (room.runtimeNames groups ++ room.customizationClass :: room.className ::
        if room.hasManagedDevices then ["deviceAddingSettings"] else []) := by
    intro name family other
    obtain ⟨deviceClass, _, rfl⟩ := List.mem_map.mp family
    obtain ⟨notRuntime, notStub, notClass, notAdding⟩ := room.importName_apart groups deviceClass
    rcases List.mem_append.mp other with imported | own
    · exact notRuntime imported
    · rcases List.mem_cons.mp own with stub | own
      · exact notStub stub
      · rcases List.mem_cons.mp own with ofClass | isAdding
        · exact notClass ofClass
        · exact notAdding (adding _ isAdding)
  have notAdding : "deviceAddingSettings" ∉ room.runtimeNames groups := by
    have unknown : "deviceAddingSettings" ∉ runtimeVocabulary := by decide
    exact fun imported => unknown (mem_runtimeVocabulary imported)
  -- Only the name of the class is left to meet a runtime name.
  rw [topNames_toModule, ← @className_mem_runtimeNames_iff room groups]
  simp only [List.nodup_append', families, runtime, own, familiesApart, true_and, and_true]
  constructor
  · intro apart imported
    exact apart imported (by simp)
  · intro notClass name imported ownName
    rcases List.mem_cons.mp ownName with rfl | ownName
    · exact customizationClass_not_mem_runtimeNames imported
    · rcases List.mem_cons.mp ownName with rfl | isAdding
      · exact notClass imported
      · exact notAdding (adding _ isAdding ▸ imported)

end Room

/-! ## The registry -/

theorem topNames_registryModule (rooms : List Room) (options : RenderOptions) :
    (registryModule rooms options).topNames = "RoomImportEnforcer" :: rooms.map (·.className) := by
  have classes : (rooms.map Room.registryImport).flatMap Import.names = rooms.map (·.className) := by
    rw [List.flatMap_map, List.map_eq_flatMap]
    rfl
  have statements : (rooms.map fun room => Item.stmt room.registration).flatMap Item.declared = [] := by
    rw [List.flatMap_map, List.flatMap_eq_nil_iff]
    exact fun _ _ => rfl
  simp [Module.topNames, registryModule, classes, statements, Import.names]

/-- Rooms of different names are imported by different names; only one of them can have the name
that the registry is made of. -/
theorem topNames_registryModule_nodup_iff {rooms : List Room} {options : RenderOptions}
    (distinct : (rooms.map (·.shortName)).Nodup) :
    (registryModule rooms options).topNames.Nodup ↔
      ∀ room ∈ rooms, room.shortName ≠ "ImportEnforcer" := by
  have classes := Room.classNames_nodup distinct
  have enforcer (room : Room) :
      room.className = "RoomImportEnforcer" ↔ room.shortName = "ImportEnforcer" :=
    Room.className_eq_iff rfl
  simp [topNames_registryModule, classes, enforcer]

/-- In a planned house, the stubs bind one name each.  The names at the top of a room's module are
distinct unless the room is called like an import, and those of the registry unless a room is called
like the runtime type that it registers rooms with. -/
theorem HousePlan.top_names_distinct_iff {plan : HousePlan} {options : RenderOptions}
    {rooms : List String} {artifacts : List Artifact}
    (planned : plan.artifacts options = .ok (rooms, artifacts)) :
    ∃ house, House.compile plan = .ok house ∧
      (∀ room ∈ house.rooms, ∃ groups, RoomGroups.ofRoom room = .ok groups ∧
        room.moduleArtifact groups options ∈ artifacts ∧
        ((room.toModule groups options).topNames.Nodup ↔ ¬ room.NamedLikeImport) ∧
        room.stubArtifact ∈ artifacts ∧ room.toStub.topNames.Nodup) ∧
      registryArtifact house.rooms options ∈ artifacts ∧
      ((registryModule house.rooms options).topNames.Nodup ↔
        ∀ room ∈ house.rooms, room.shortName ≠ "ImportEnforcer") := by
  obtain ⟨house, compiled, housePlanned⟩ := HousePlan.artifacts_eq_ok planned
  refine ⟨house, compiled, fun room member => ?_, House.registry_planned housePlanned, ?_⟩
  · obtain ⟨groups, assembled, modulePlanned⟩ := House.module_planned housePlanned member
    have stub : room.toStub.topNames = [room.customizationClass] := rfl
    refine ⟨groups, assembled, modulePlanned, Room.topNames_toModule_nodup_iff,
      House.stub_planned housePlanned member, ?_⟩
    rw [stub]
    exact List.nodup_singleton _
  · exact topNames_registryModule_nodup_iff (House.roomNames_nodup compiled)

/-- Rooms may be called like the stub of another room, or like a runtime type that only rooms with
managed devices import. -/
theorem HousePlan.top_names_distinct_with_sibling_of_stub :
    let kueche : RoomPlan :=
      { shortName := "Kueche", longName := "Küche", floor := 0,
        devices := [{ type := "HmIpTaster", index := 0 }] }
    let sibling : RoomPlan := { kueche with shortName := "KuecheCustomization" }
    let speaker : RoomPlan :=
      { shortName := "DeviceAddingSettings", longName := "Box", floor := 0,
        devices := [{ type := "OwnSonosDevice", index := 0, includeInGroup := true }] }
    let plan : HousePlan := { rooms := [kueche, sibling, speaker] }
    ∃ house, House.compile plan = .ok house ∧
      (∀ room ∈ house.rooms, ∃ groups, RoomGroups.ofRoom room = .ok groups ∧
        (room.toModule groups {}).topNames.Nodup ∧ room.toStub.topNames.Nodup) ∧
      (registryModule house.rooms {}).topNames.Nodup := by
  intro kueche sibling speaker plan
  have runs : (plan.artifacts {} >>= fun planned => House.compile plan >>= fun house =>
      .ok (planned.1, house.rooms.all fun room => !decide room.NamedLikeImport &&
        room.shortName ≠ "ImportEnforcer")) =
      .ok (["Kueche", "KuecheCustomization", "DeviceAddingSettings"], true) := by
    decide +kernel
  obtain ⟨_, house, planned, compiled, checked⟩ := HousePlan.exists_house_of_check runs
  have names : ∀ room ∈ house.rooms,
      ¬ room.NamedLikeImport ∧ room.shortName ≠ "ImportEnforcer" := by
    simpa using checked
  obtain ⟨_, same, perRoom, _, registry⟩ := HousePlan.top_names_distinct_iff planned
  obtain rfl := Except.ok.inj (compiled.symm.trans same)
  refine ⟨house, compiled, fun room member => ?_, registry.mpr fun room member => (names room member).2⟩
  obtain ⟨groups, assembled, _, distinct, _, stub⟩ := perRoom room member
  exact ⟨groups, assembled, distinct.mpr (names room member).1, stub⟩

/-- The class of a room called "Service" has the name of the runtime service that the module
imports. -/
theorem HousePlan.class_and_import_share_name :
    let service : RoomPlan := { shortName := "Service", longName := "Hauswirtschaft", floor := 0 }
    ∃ artifacts house room groups,
      HousePlan.artifacts { rooms := [service] } {} = .ok (["Service"], artifacts) ∧
      House.compile { rooms := [service] } = .ok house ∧ room ∈ house.rooms ∧
      RoomGroups.ofRoom room = .ok groups ∧ ¬ (room.toModule groups {}).topNames.Nodup := by
  intro service
  have runs : (HousePlan.artifacts { rooms := [service] } {} >>= fun planned =>
      House.compile { rooms := [service] } >>= fun house => house.rooms.mapM fun room =>
      RoomGroups.ofRoom room >>= fun groups =>
        .ok (planned.1, decide (room.toModule groups {}).topNames.Nodup)) =
      .ok [(["Service"], false)] := by
    decide +kernel
  obtain ⟨artifacts, house, room, groups, planned, compiled, member, assembled, repeated⟩ :=
    HousePlan.exists_room_of_check runs
  exact ⟨artifacts, house, room, groups, planned, compiled, member, assembled,
    of_decide_eq_false repeated⟩

end Homeplan
