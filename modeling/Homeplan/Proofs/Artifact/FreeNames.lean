import Homeplan.Proofs.Artifact.TopNames

namespace Homeplan

/-! The names that the module of a room uses and where they come from.

Imports are collected apart from the expressions that need them: runtime names while groups are
built, and one namespace for every family that a device of the room belongs to.  Windows are built
from the namespace of the window family, whatever family their frames belong to.
-/

open TypeScript

theorem leadingName_runtimeType (device : Device) :
    leadingName device.runtimeType = device.deviceClass.importName := by
  refine leadingName_qualified ?_ _
  cases device.deviceClass <;> simp [DeviceClass.importName]

namespace Room

/-- What the module of a room uses: names that it binds at its top, names outside of all modules,
and the namespace that windows are built from. -/
inductive Available (room : Room) (groups : RoomGroups) : String → Prop
  | everywhere {name : String} : name ∈ globals → Available room groups name
  | runtime {name : String} : name ∈ room.runtimeNames groups → Available room groups name
  | ownClass : Available room groups room.className
  | customization : Available room groups room.customizationClass
  | family {device : Device} :
      device ∈ room.devices → Available room groups device.deviceClass.importName
  | adding : room.hasManagedDevices = true → Available room groups "deviceAddingSettings"
  | windows : groups.windows ≠ [] → Available room groups "Windows"

variable {room : Room} {groups : RoomGroups} {name : String}

theorem Available.common (isCommon : name ∈ commonNames) : room.Available groups name :=
  .runtime (mem_runtimeNames_iff.mpr (Or.inl isCommon))

theorem Available.groupClass {kind : GroupKind} (built : kind ∈ groups.kinds) :
    room.Available groups (groupClass kind) :=
  .runtime (mem_runtimeNames_iff.mpr (Or.inr (Or.inr (Or.inl ⟨kind, built, rfl⟩))))

theorem Available.devices {device : Device} (bus : device ∈ room.busDevices) :
    room.Available groups "Devices" :=
  .runtime (mem_runtimeNames_iff.mpr (Or.inr (Or.inl ⟨List.ne_nil_of_mem bus, rfl⟩)))

theorem Available.managed (managed : room.hasManagedDevices = true)
    (ofManaged : name ∈ ["DeviceType", "RoomDeviceAddingSettings"]) : room.Available groups name :=
  .runtime (mem_runtimeNames_iff.mpr (Or.inr (Or.inr (Or.inr ⟨managed, ofManaged⟩))))

/-- What is available is bound, but for the namespace of windows in a room without a device of their
family. -/
theorem Available.bound_or_windows {options : RenderOptions}
    (available : room.Available groups name) :
    name ∈ (room.toModule groups options).topNames ∨ name ∈ globals ∨
      (name = "Windows" ∧ groups.windows ≠ []) := by
  rw [mem_topNames_iff]
  cases available with
  | everywhere isGlobal => exact Or.inr (Or.inl isGlobal)
  | runtime imported => exact Or.inl (Or.inr (Or.inl imported))
  | ownClass => exact Or.inl (Or.inr (Or.inr (Or.inr (Or.inl rfl))))
  | customization => exact Or.inl (Or.inr (Or.inr (Or.inl rfl)))
  | family member => exact Or.inl (Or.inl ⟨_, member, rfl⟩)
  | adding managed => exact Or.inl (Or.inr (Or.inr (Or.inr (Or.inr ⟨managed, rfl⟩))))
  | windows built => exact Or.inr (Or.inr ⟨rfl, built⟩)

/-! ## Expressions whose names are available -/

abbrev Covers (room : Room) (groups : RoomGroups) (expr : Expr) : Prop :=
  expr.NamesWithin (room.Available groups)

abbrev StmtCovers (room : Room) (groups : RoomGroups) (statement : Stmt) : Prop :=
  statement.NamesWithin (room.Available groups)

section

variable {allowed : String → Prop}

theorem namesWithin_own (ownClass : allowed room.className) (property : String) :
    (room.own property).NamesWithin allowed := by
  simpa [own] using ownClass

theorem namesWithin_deviceRef (ownClass : allowed room.className) (device : Device) :
    (room.deviceRef device).NamesWithin allowed := by
  unfold deviceRef
  split
  · exact namesWithin_own ownClass device.name
  · exact namesWithin_own ownClass device.identifier

theorem namesWithin_deviceRefs (ownClass : allowed room.className) (devices : List Device) :
    (room.deviceRefs devices).NamesWithin allowed := by
  rw [deviceRefs, namesWithin_array, List.forall_mem_map]
  exact fun device _ => namesWithin_deviceRef ownClass device

end

theorem covers_own (property : String) : room.Covers groups (room.own property) :=
  namesWithin_own .ownClass property

theorem covers_hook (property : String) : room.StmtCovers groups (room.hook property) := by
  simp [hook, StmtCovers, Available.customization]

/-! ## Groups -/

/-- What may be used where groups are built: what the module makes available, the map of groups and
the windows. -/
def InGroups (room : Room) (groups : RoomGroups) (name : String) : Prop :=
  name = "groups" ∨ (∃ window ∈ groups.windows, windowConst window.id = name) ∨
    room.Available groups name

theorem window_mem_kinds_iff : .window ∈ groups.kinds ↔ groups.windows ≠ [] := by
  simp [RoomGroups.kinds]

theorem declared_setGroup (kind : GroupKind) (arguments : List Expr) :
    (room.setGroup kind arguments).declared = [] :=
  rfl

theorem mem_declared_groupStmts_iff {kind : GroupKind} :
    (∃ statement ∈ room.groupStmts groups kind, name ∈ statement.declared) ↔
      kind = .window ∧ ∃ window ∈ groups.windows, windowConst window.id = name := by
  have ofWindow (window : WindowAssembly) :
      (room.windowStmt window).declared = [windowConst window.id] :=
    rfl
  cases kind <;> simp [groupStmts, ofWindow, declared_setGroup, eq_comm]

theorem mem_declared_groupsMethod_iff :
    name ∈ (room.groupsMethod groups).body.flatMap Stmt.declared ↔
      name = "groups" ∨ ∃ window ∈ groups.windows, windowConst window.id = name := by
  have map : name ∈ (Stmt.const "groups" groupMap (.construct groupMap [])).declared ↔
      name = "groups" := by
    simp [Stmt.declared]
  have writebacks : (groups.roomNameWritebacks.map room.writeback).flatMap Stmt.declared = [] := by
    rw [List.flatMap_map, List.flatMap_eq_nil_iff]
    exact fun _ _ => rfl
  have windows : (∃ kind ∈ groups.kinds, ∃ statement ∈ room.groupStmts groups kind,
      name ∈ statement.declared) ↔ ∃ window ∈ groups.windows, windowConst window.id = name := by
    simp only [mem_declared_groupStmts_iff]
    constructor
    · rintro ⟨_, _, rfl, declared⟩
      exact declared
    · rintro ⟨window, member, named⟩
      have built := window_mem_kinds_iff.mpr (List.ne_nil_of_mem member)
      exact ⟨.window, built, rfl, window, member, named⟩
  have returned : [Stmt.returned (.ident "groups")].flatMap Stmt.declared = [] := rfl
  rw [← windows]
  simp only [groupsMethod, List.flatMap_cons, List.flatMap_append, writebacks, returned,
    List.append_nil, List.mem_append, map, List.flatMap_assoc, List.mem_flatMap]

theorem namesWithin_setGroup {allowed : String → Prop} {kind : GroupKind} {arguments : List Expr}
    (map : allowed "groups") (key : allowed "GroupType") (type : allowed (groupClass kind))
    (ownClass : allowed room.className)
    (within : ∀ argument ∈ arguments, argument.NamesWithin allowed) :
    (room.setGroup kind arguments).NamesWithin allowed := by
  have plain : leadingName (groupClass kind) = groupClass kind := by
    cases kind <;> decide
  have name : (room.own "roomName").NamesWithin allowed := namesWithin_own ownClass _
  simp only [setGroup, Stmt.namesWithin_expr, namesWithin_call, namesWithin_path, plain,
    List.forall_mem_cons, namesWithin_construct]
  exact ⟨map, key, ⟨type, name, within⟩, List.forall_mem_nil _⟩

theorem covers_setGroup {kind : GroupKind} (built : kind ∈ groups.kinds) {arguments : List Expr}
    (within : ∀ argument ∈ arguments, argument.NamesWithin (room.InGroups groups)) :
    (room.setGroup kind arguments).NamesWithin (room.InGroups groups) :=
  namesWithin_setGroup (Or.inl rfl) (Or.inr (Or.inr (.common (by decide))))
    (Or.inr (Or.inr (.groupClass built))) (Or.inr (Or.inr .ownClass)) within

theorem namesWithin_windowStmt {allowed : String → Prop} (ownClass : allowed room.className)
    (namespaced : allowed "Windows") (missing : allowed "undefined") (window : WindowAssembly) :
    (room.windowStmt window).NamesWithin allowed := by
  have name : (room.own "roomName").NamesWithin allowed := namesWithin_own ownClass _
  have refs (devices : List Device) : (room.deviceRefs devices).NamesWithin allowed :=
    namesWithin_deviceRefs ownClass devices
  have owner : leadingName "Windows.Window" = "Windows" := by decide
  simp only [windowStmt, Stmt.namesWithin_const, namesWithin_construct, owner, List.forall_mem_cons]
  refine ⟨namespaced, namespaced, name, refs _, refs _, ?_, refs _, namesWithin_bool _,
    List.forall_mem_nil _⟩
  cases window.blindMotor with
  | none => exact (namesWithin_ident _).mpr missing
  | some motor => exact namesWithin_deviceRef ownClass motor

theorem covers_windowStmt {window : WindowAssembly} (member : window ∈ groups.windows) :
    (room.windowStmt window).NamesWithin (room.InGroups groups) := by
  apply namesWithin_windowStmt
  · exact Or.inr (Or.inr .ownClass)
  · exact Or.inr (Or.inr (.windows (List.ne_nil_of_mem member)))
  · exact Or.inr (Or.inr (.everywhere (by decide)))

theorem covers_groupStmts {kind : GroupKind} (built : kind ∈ groups.kinds) :
    ∀ statement ∈ room.groupStmts groups kind,
      statement.NamesWithin (room.InGroups groups) := by
  have refs (devices : List Device) :
      (room.deviceRefs devices).NamesWithin (room.InGroups groups) :=
    namesWithin_deviceRefs (Or.inr (Or.inr .ownClass)) devices
  cases kind with
  | window =>
      have consts : ∀ window ∈ groups.windows, room.InGroups groups (windowConst window.id) :=
        fun window member => Or.inr (Or.inl ⟨window, member, rfl⟩)
      simp only [groupStmts, List.forall_mem_append, List.forall_mem_map, List.forall_mem_singleton]
      refine ⟨fun window member => covers_windowStmt member, covers_setGroup built ?_⟩
      simpa using consts
  | presence =>
      exact List.forall_mem_map.mpr fun group _ => covers_setGroup built (by simp [refs])
  | light =>
      exact List.forall_mem_map.mpr fun group _ => covers_setGroup built (by simp [refs])
  | buttons =>
      exact List.forall_mem_map.mpr fun devices _ => covers_setGroup built (by simp [refs])
  | smoke =>
      exact List.forall_mem_map.mpr fun devices _ => covers_setGroup built (by simp [refs])
  | water =>
      exact List.forall_mem_map.mpr fun devices _ => covers_setGroup built (by simp [refs])
  | heating =>
      exact List.forall_mem_map.mpr fun group _ => covers_setGroup built (by simp [refs])
  | speaker =>
      exact List.forall_mem_map.mpr fun devices _ => covers_setGroup built (by simp [refs])

theorem freeNames_groupsMethod :
    ∀ name ∈ (room.groupsMethod groups).freeNames, room.Available groups name := by
  have map : leadingName groupMap = "Map" := by decide
  have isGlobal : room.Available groups "Map" := .everywhere (by decide)
  have anywhere : room.InGroups groups "Map" := Or.inr (Or.inr isGlobal)
  have writeback (device : Device) :
      (room.writeback device).NamesWithin (room.InGroups groups) := by
    have own (property : String) : (room.own property).NamesWithin (room.InGroups groups) :=
      namesWithin_own (Or.inr (Or.inr .ownClass)) property
    simp [Room.writeback, own]
  have returned : (Stmt.returned (.ident "groups")).NamesWithin (room.InGroups groups) := by
    simp [InGroups]
  have body : ∀ statement ∈ (room.groupsMethod groups).body,
      statement.NamesWithin (room.InGroups groups) := by
    simp only [groupsMethod, List.forall_mem_cons, List.forall_mem_append, List.forall_mem_flatMap,
      List.forall_mem_map]
    refine ⟨?_, ⟨fun kind built => covers_groupStmts built, fun device _ => writeback device⟩,
      returned, List.forall_mem_nil _⟩
    simp [map, anywhere]
  simp only [Method.freeNames, List.forall_mem_append, List.forall_mem_cons]
  refine ⟨⟨map ▸ isGlobal, List.forall_mem_nil _⟩, freeNames_within fun statement member => ?_⟩
  -- The constants of the block are exactly what `InGroups` adds to the available names.
  refine (body statement member).imp fun name allowed => Or.inr ?_
  rw [mem_declared_groupsMethod_iff, or_assoc]
  exact allowed

/-! ## The other members, construction and registration -/

theorem leadingName_className (valid : isValidName room.shortName = true) :
    leadingName room.className = room.className := by
  refine leadingName_plain fun character member => ?_
  have prefixed : ∀ character ∈ "Room".toList, character ≠ '.' ∧ character ≠ '<' := by simp
  have dot : Text.isAlphanumeric '.' = false := by decide
  have bracket : Text.isAlphanumeric '<' = false := by decide
  rw [className, String.toList_append] at member
  rcases List.mem_append.mp member with ofPrefix | ofShortName
  · exact prefixed character ofPrefix
  · have safe := isValidName_iff.mp valid character ofShortName
    constructor
    · rintro rfl
      simp [dot] at safe
    · rintro rfl
      simp [bracket] at safe

theorem covers_field {field : Field} {owner : String} (leads : leadingName field.type = owner)
    (available : room.Available groups owner)
    (init : ∀ value ∈ field.init, room.Covers groups value) :
    ∀ name ∈ field.names, room.Available groups name := by
  simp only [Field.names, leads, List.forall_mem_cons, List.forall_mem_flatMap, Option.mem_toList]
  exact ⟨available, init⟩

theorem covers_fixedFields (valid : isValidName room.shortName = true) :
    ∀ field ∈ room.fixedFields, ∀ name ∈ field.names, room.Available groups name := by
  have own (property : String) : room.Covers groups (room.own property) := covers_own property
  have initialType : leadingName "RoomInitializationSettings" = "RoomInitializationSettings" := by
    decide
  have settingsType : leadingName "RoomSettings" = "RoomSettings" := by decide
  have text : leadingName "string" = "string" := by decide
  have isGlobal : room.Available groups "string" := .everywhere (by decide)
  have initial : room.Available groups "RoomInitializationSettings" := .common (by decide)
  have settings : room.Available groups "RoomSettings" := .common (by decide)
  simp only [fixedFields, List.forall_mem_cons]
  refine ⟨covers_field text isGlobal ?_, covers_field text isGlobal ?_,
    covers_field initialType initial ?_, covers_field settingsType settings ?_,
    covers_field (leadingName_className valid) .ownClass ?_, List.forall_mem_nil _⟩
  · simp [publicField]
  · simp [publicField]
  · simp [publicField, initialType, initial, own]
  · simp [publicField, settingsType, settings, own]
  · simp [publicField]

theorem covers_fields (valid : isValidName room.shortName = true) :
    ∀ field ∈ room.fields, ∀ name ∈ field.names, room.Available groups name := by
  intro field member
  rcases List.mem_append.mp member with fixedField | ofDevice
  · exact covers_fixedFields valid field fixedField
  · obtain ⟨device, inRoom, found⟩ := List.mem_filterMap.mp ofDevice
    have type : leadingName device.runtimeType = device.deviceClass.importName :=
      leadingName_runtimeType device
    have family : room.Available groups device.deviceClass.importName := .family inRoom
    have name : room.Covers groups (room.own "roomName") := covers_own _
    unfold deviceField? at found
    split at found
    · obtain rfl := Option.some.inj found
      exact covers_field type family (by simp [publicField, type, family, name])
    · split at found
      · obtain rfl := Option.some.inj found
        have text : leadingName "string" = "string" := by decide
        exact covers_field text (.everywhere (by decide)) (by simp)
      · contradiction

theorem covers_accessors :
    ∀ getter ∈ room.accessors, ∀ name ∈ getter.names, room.Available groups name := by
  refine List.forall_mem_map.mpr fun device member => ?_
  have family : room.Available groups (leadingName device.runtimeType) :=
    leadingName_runtimeType device ▸ .family (List.mem_filter.mp member).1
  have get : room.Available groups "Devices" := .devices member
  have body : room.Covers groups (room.accessor device).body := by
    simp [accessor, family, get, covers_own]
  simp only [Getter.names, List.forall_mem_cons]
  exact ⟨family, body⟩

theorem freeNames_voidMethod {method : Method} (returns : method.returns = "void")
    (texts : ∀ parameter ∈ method.parameters, parameter.2 = "string")
    (body : ∀ statement ∈ method.body, statement.NamesWithin fun name =>
      name ∈ method.parameters.map (·.1) ∨ room.Available groups name) :
    ∀ name ∈ method.freeNames, room.Available groups name := by
  have nothing : leadingName method.returns = "void" := by
    rw [returns]
    decide
  have text : ∀ parameter ∈ method.parameters,
      room.Available groups (leadingName parameter.2) := by
    intro parameter member
    have leads : leadingName "string" = "string" := by decide
    rw [texts parameter member, leads]
    exact .everywhere (by decide)
  simp only [Method.freeNames, nothing, List.forall_mem_append, List.forall_mem_cons,
    List.forall_mem_map]
  refine ⟨⟨.everywhere (by decide), text⟩, freeNames_within fun statement member => ?_⟩
  exact (body statement member).imp fun _ => Or.imp_right Or.inr

theorem freeNames_mutators :
    ∀ method ∈ room.mutators, ∀ name ∈ method.freeNames, room.Available groups name := by
  refine List.forall_mem_map.mpr fun device _ => freeNames_voidMethod rfl ?_ ?_
  · simp [mutator]
  · have slot : (room.own device.identifier).NamesWithin fun name =>
        name ∈ (room.mutator device).parameters.map (·.1) ∨ room.Available groups name :=
      namesWithin_own (Or.inr .ownClass) _
    have parameter : "id" ∈ (room.mutator device).parameters.map (·.1) := List.mem_singleton_self _
    simp only [mutator, List.forall_mem_singleton, Stmt.namesWithin_assign, namesWithin_ident]
    exact ⟨slot, Or.inl parameter⟩

theorem covers_overrides (device : Device) :
    ∀ statement ∈ room.overrides device, room.StmtCovers groups statement := by
  unfold overrides
  cases device.plan.settings with
  | none => exact List.forall_mem_nil _
  | some settings => exact List.forall_mem_map.mpr fun _ _ => by simp [StmtCovers, covers_own]

theorem freeNames_setupMethod :
    ∀ name ∈ room.setupMethod.freeNames, room.Available groups name := by
  have body : ∀ statement ∈ room.setupMethod.body, room.StmtCovers groups statement := by
    simp only [setupMethod, List.forall_mem_cons, List.forall_mem_append, List.forall_mem_flatMap]
    exact ⟨covers_hook _, fun device _ => covers_overrides device, covers_hook _,
      List.forall_mem_nil _⟩
  refine freeNames_voidMethod rfl (List.forall_mem_nil _) fun statement member => ?_
  exact (body statement member).imp fun _ => Or.inr

theorem namesWithin_roomOverrides {allowed : String → Prop} (ownClass : allowed room.className) :
    ∀ statement ∈ room.roomOverrides, statement.NamesWithin allowed := by
  unfold roomOverrides
  cases room.settings with
  | none => exact List.forall_mem_nil _
  | some settings =>
      exact List.forall_mem_map.mpr fun _ _ => by simp [namesWithin_own ownClass]

theorem freeNames_construction :
    ∀ name ∈ TypeScript.freeNames [] room.construction, room.Available groups name := by
  have declared : "groups" ∈ room.construction.flatMap Stmt.declared := by
    simp [construction, Stmt.declared]
  have statements : ∀ statement ∈ room.construction, statement.NamesWithin fun name =>
      name = "groups" ∨ room.Available groups name := by
    have map : leadingName groupMap = "Map" := by decide
    have isGlobal : room.Available groups "Map" := .everywhere (by decide)
    have own (property : String) : (room.own property).NamesWithin fun name =>
        name = "groups" ∨ room.Available groups name :=
      namesWithin_own (Or.inr .ownClass) property
    have overrides : ∀ statement ∈ room.roomOverrides, statement.NamesWithin fun name =>
        name = "groups" ∨ room.Available groups name :=
      namesWithin_roomOverrides (Or.inr .ownClass)
    have hook : (room.hook "postSuperInitialize").NamesWithin fun name =>
        name = "groups" ∨ room.Available groups name :=
      (covers_hook _).imp fun _ => Or.inr
    simp only [construction, List.forall_mem_append, List.forall_mem_map]
    refine ⟨⟨⟨overrides, ?_⟩, fun device _ => ?_⟩, ?_⟩
    · simp [map, isGlobal, own]
    · simp [own]
    · simp [own, callSelf, hook]
  refine freeNames_within fun statement member => ?_
  refine (statements statement member).imp fun name allowed => Or.inr (allowed.imp_left ?_)
  rintro rfl
  exact declared

theorem covers_addDeviceStmt (device : Device) (managed : room.hasManagedDevices = true) :
    room.StmtCovers groups (room.addDeviceStmt device) := by
  have adding : room.Available groups "deviceAddingSettings" := .adding managed
  have type : room.Available groups "DeviceType" := .managed managed (by decide)
  have mutator : room.Covers groups (room.own device.mutator) := covers_own _
  simp only [addDeviceStmt, StmtCovers, Stmt.namesWithin_expr, namesWithin_call, namesWithin_path,
    List.forall_mem_append, List.forall_mem_cons, List.forall_mem_map]
  exact ⟨adding, ⟨type, mutator, namesWithin_integer _, List.forall_mem_nil _⟩,
    fun name _ => namesWithin_string name⟩

theorem covers_trailing : ∀ statement ∈ room.trailing, room.StmtCovers groups statement := by
  have own (property : String) : room.Covers groups (room.own property) := covers_own property
  unfold trailing
  rw [List.forall_mem_append]
  constructor
  · split
    · rename_i managed
      have adding : room.Available groups "deviceAddingSettings" := .adding managed
      have type : room.Available groups "RoomDeviceAddingSettings" :=
        .managed managed (by decide)
      have leads : leadingName "RoomDeviceAddingSettings" = "RoomDeviceAddingSettings" := by decide
      simp only [List.forall_mem_cons, List.forall_mem_append, List.forall_mem_map]
      refine ⟨?_, fun device _ => covers_addDeviceStmt device managed, ?_, List.forall_mem_nil _⟩
      · simp [StmtCovers, leads, type, own]
      · simp [StmtCovers, adding, own]
    · exact List.forall_mem_nil _
  · have service : room.Available groups "RoomService" := .common (by decide)
    simp [StmtCovers, service, own]

/-! ## The whole module -/

theorem freeNames_items (valid : isValidName room.shortName = true) (options : RenderOptions) :
    ∀ item ∈ (room.toModule groups options).items, ∀ name ∈ item.freeNames,
      room.Available groups name := by
  have ownClass : ∀ name ∈ (room.classDecl groups).freeNames, room.Available groups name := by
    have base : room.Available groups "RoomBase" := .common (by decide)
    simp only [ClassDecl.freeNames, classDecl, List.forall_mem_append, List.forall_mem_flatMap,
      Option.toList_some, List.forall_mem_singleton, List.forall_mem_cons]
    exact ⟨⟨⟨⟨base, covers_fields valid⟩, covers_accessors⟩, freeNames_mutators,
      freeNames_setupMethod, freeNames_groupsMethod⟩, freeNames_construction⟩
  simp only [toModule, List.forall_mem_cons, List.forall_mem_map]
  exact ⟨ownClass, covers_trailing⟩

/-- Windows are built from their namespace, and nothing in the block that builds them is called so. -/
theorem windows_mem_freeNames (windows : groups.windows ≠ []) :
    "Windows" ∈ (room.groupsMethod groups).freeNames := by
  obtain ⟨window, member⟩ := List.exists_mem_of_ne_nil _ windows
  have statement : room.windowStmt window ∈ (room.groupsMethod groups).body := by
    refine List.mem_cons_of_mem _ (List.mem_append_left _ (List.mem_append_left _ ?_))
    refine List.mem_flatMap.mpr ⟨.window, window_mem_kinds_iff.mpr windows, ?_⟩
    exact List.mem_append_left _ (List.mem_map_of_mem member)
  have used : "Windows" ∈ (room.windowStmt window).names := by
    have owner : leadingName "Windows.Window" = "Windows" := by decide
    simp [windowStmt, Stmt.names, owner]
  have undeclared : "Windows" ∉ (room.groupsMethod groups).body.flatMap Stmt.declared := by
    rw [mem_declared_groupsMethod_iff]
    rintro (isMap | ⟨other, _, named⟩)
    · exact absurd isMap (by decide)
    · have texts := congrArg String.toList named
      simp [windowConst] at texts
  refine List.mem_append_right _ (List.mem_filter.mpr ⟨List.mem_flatMap.mpr ⟨_, statement, used⟩, ?_⟩)
  exact decide_eq_true ⟨List.not_mem_nil, undeclared⟩

theorem windows_free (windows : groups.windows ≠ []) (options : RenderOptions) :
    ∃ item ∈ (room.toModule groups options).items, "Windows" ∈ item.freeNames := by
  have inMethods : room.groupsMethod groups ∈ (room.classDecl groups).methods :=
    List.mem_append_right _ (List.mem_cons_of_mem _ (List.mem_singleton_self _))
  refine ⟨.classDecl (room.classDecl groups), List.mem_cons_self .., ?_⟩
  refine List.mem_append_left _ (List.mem_append_right _ ?_)
  exact List.mem_flatMap.mpr ⟨_, inMethods, windows_mem_freeNames windows⟩

/-- The one name that the module of a room can leave unbound is the namespace of windows, and it
does so exactly if the room has a window but no device of the window family. -/
theorem mem_unboundNames_iff (valid : isValidName room.shortName = true) {options : RenderOptions} :
    name ∈ (room.toModule groups options).unboundNames ↔
      name = "Windows" ∧ groups.windows ≠ [] ∧
        ∀ device ∈ room.devices, device.deviceClass ≠ .window := by
  rw [Module.mem_unboundNames_iff]
  constructor
  · rintro ⟨⟨item, member, free⟩, notBound, notGlobal⟩
    rcases (freeNames_items valid options item member name free).bound_or_windows
      with bound | isGlobal | ⟨rfl, windows⟩
    · exact absurd bound notBound
    · exact absurd isGlobal notGlobal
    · refine ⟨rfl, windows, fun device inRoom family => notBound ?_⟩
      exact mem_topNames_iff.mpr (Or.inl ⟨device, inRoom, by rw [family]; rfl⟩)
  · rintro ⟨rfl, windows, others⟩
    refine ⟨windows_free windows options, fun bound => ?_, by decide⟩
    obtain ⟨notRuntime, notStub, notClass, notAdding⟩ := room.importName_apart groups .window
    rcases mem_topNames_iff.mp bound with ⟨device, inRoom, family⟩ | imported | isStub | isClass | isAdding
    · exact others device inRoom (DeviceClass.importName_injective family)
    · exact notRuntime imported
    · exact notStub isStub
    · exact notClass isClass
    · exact notAdding isAdding.2

end Room

/-- Whatever the planned module of a room uses is bound where it is used, but for the namespace that
windows are built from: it is imported only for devices of the window family, and a frame may belong
to another family. -/
theorem HousePlan.names_bound_but_windows {plan : HousePlan} {options : RenderOptions}
    {rooms : List String} {artifacts : List Artifact}
    (planned : plan.artifacts options = .ok (rooms, artifacts)) :
    ∃ house, House.compile plan = .ok house ∧ ∀ room ∈ house.rooms, ∃ groups,
      RoomGroups.ofRoom room = .ok groups ∧ room.moduleArtifact groups options ∈ artifacts ∧
      ∀ name, name ∈ (room.toModule groups options).unboundNames ↔
        name = "Windows" ∧ groups.windows ≠ [] ∧
          ∀ device ∈ room.devices, device.deviceClass ≠ .window := by
  obtain ⟨house, compiled, housePlanned⟩ := HousePlan.artifacts_eq_ok planned
  refine ⟨house, compiled, fun room member => ?_⟩
  obtain ⟨groups, assembled, modulePlanned⟩ := House.module_planned housePlanned member
  exact ⟨groups, assembled, modulePlanned,
    fun name => Room.mem_unboundNames_iff (House.valid_of_compile compiled member)⟩

/-- A frame of the catalog brings its namespace along, whatever families the other devices on its
window belong to. -/
theorem HousePlan.names_bound_with_catalog_frame :
    let contact : CustomType :=
      { id := "Kontakt", displayName := "Kontakt", className := "zigbee",
        capabilities := [.magnetContact, .smokeDetector] }
    let devices : List DevicePlan :=
      [{ type := "Window", index := 0, windowId := some 1 },
        { type := "HmIpGriff", index := 0, windowId := some 1,
          settings := some (.ofMembers [("ton", .bool true)]) },
        { type := "Kontakt", index := 0, includeInGroup := true },
        { type := "OwnSonosDevice", index := 0, includeInGroup := true }]
    let buero : RoomPlan := { shortName := "Buero", longName := "Büro", floor := 1, devices }
    let plan : HousePlan := { customTypes := [contact], rooms := [buero] }
    ∃ house, House.compile plan = .ok house ∧ ∀ room ∈ house.rooms, ∃ groups,
      RoomGroups.ofRoom room = .ok groups ∧ (room.toModule groups {}).unboundNames = [] := by
  intro contact devices buero plan
  have runs : (plan.artifacts {} >>= fun planned => House.compile plan >>= fun house =>
      .ok (planned.1, house.rooms.all fun room =>
        room.devices.any fun device => device.deviceClass = .window)) =
      .ok (["Buero"], true) := by
    decide +kernel
  obtain ⟨_, house, planned, compiled, checked⟩ := HousePlan.exists_house_of_check runs
  have framed : ∀ room ∈ house.rooms, ∃ device ∈ room.devices, device.deviceClass = .window := by
    simpa using checked
  obtain ⟨_, same, bound⟩ := HousePlan.names_bound_but_windows planned
  obtain rfl := Except.ok.inj (compiled.symm.trans same)
  refine ⟨house, compiled, fun room member => ?_⟩
  obtain ⟨groups, assembled, _, unbound⟩ := bound room member
  refine ⟨groups, assembled, List.eq_nil_iff_forall_not_mem.mpr fun name isUnbound => ?_⟩
  obtain ⟨_, _, noFrame⟩ := (unbound name).mp isUnbound
  obtain ⟨device, inRoom, frame⟩ := framed room member
  exact noFrame device inRoom frame

/-- A frame of another family has its window built from a namespace that is not imported. -/
theorem HousePlan.windows_unbound_with_foreign_frame :
    let rahmen : CustomType :=
      { id := "Rahmen", displayName := "Rahmen", className := "hmip",
        capabilities := [.windowFrame] }
    let buero : RoomPlan :=
      { shortName := "Buero", longName := "Büro", floor := 1,
        devices := [{ type := "Rahmen", index := 0, windowId := some 1 }] }
    let plan : HousePlan := { customTypes := [rahmen], rooms := [buero] }
    ∃ artifacts house room groups,
      plan.artifacts {} = .ok (["Buero"], artifacts) ∧
      House.compile plan = .ok house ∧ room ∈ house.rooms ∧ RoomGroups.ofRoom room = .ok groups ∧
      (room.toModule groups {}).unboundNames = ["Windows", "Windows"] := by
  intro rahmen buero plan
  have runs : (plan.artifacts {} >>= fun planned => House.compile plan >>= fun house =>
      house.rooms.mapM fun room => RoomGroups.ofRoom room >>= fun groups =>
        .ok (planned.1, (room.toModule groups {}).unboundNames)) =
      .ok [(["Buero"], ["Windows", "Windows"])] := by
    decide +kernel
  exact HousePlan.exists_room_of_check runs

end Homeplan
