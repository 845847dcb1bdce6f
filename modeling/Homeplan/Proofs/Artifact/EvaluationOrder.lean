import Homeplan.Proofs.Artifact.GroupStatements

namespace Homeplan

/-! The order in which the code of a room is evaluated.

Static fields get their values from top to bottom, and the statements of a block run one after the
other.  No field and no constant is read before it is there, and the constructor leaves the object
alone until its base is constructed.
-/

namespace TypeScript

/-! ## What is read only below its declaration -/

/-- Whatever an item reads, items above it declare. -/
def ReadsAbove (reads : α → String → Prop) (declares : α → List String) (items : List α) : Prop :=
  ∀ before item after, items = before ++ item :: after →
    ∀ name, reads item name → name ∈ before.flatMap declares

section ReadsAbove

variable {reads : α → String → Prop} {declares : α → List String} {upper lower : List α}

theorem ReadsAbove.of_unread (unread : ∀ item ∈ upper, ∀ name, ¬ reads item name) :
    ReadsAbove reads declares upper := by
  rintro before item after rfl name isRead
  exact absurd isRead (unread item (by simp) name)

theorem ReadsAbove.append (ofUpper : ReadsAbove reads declares upper)
    (ofLower : ∀ item ∈ lower, ∀ name, reads item name → name ∈ upper.flatMap declares) :
    ReadsAbove reads declares (upper ++ lower) := by
  intro before item after split name isRead
  -- The item stands among the lower ones, at the seam, or among the upper ones.
  rcases List.append_eq_append_iff.mp split with ⟨ahead, rfl, inLower⟩ | ⟨later, inUpper, behind⟩
  · rw [List.flatMap_append]
    exact List.mem_append_left _ (ofLower item (inLower ▸ by simp) name isRead)
  · cases later with
    | nil =>
        rw [List.append_nil] at inUpper
        rw [List.nil_append] at behind
        exact inUpper ▸ ofLower item (behind ▸ List.mem_cons_self) name isRead
    | cons first rest =>
        obtain ⟨rfl, _⟩ := List.cons.inj behind
        exact ofUpper before item rest inUpper name isRead

end ReadsAbove

/-- A block declares each of its names once, and every local name that one of its statements reads
is declared above the statement. -/
structure DeclaredFirst (isLocal : String → Prop) (block : List Stmt) : Prop where
  above : ReadsAbove (fun statement name => name ∈ statement.names ∧ isLocal name)
    Stmt.declared block
  once : (block.flatMap Stmt.declared).Nodup
  /-- Nothing but local names is declared, so no other name needs to be looked for. -/
  locals : ∀ name ∈ block.flatMap Stmt.declared, isLocal name

section DeclaredFirst

variable {isLocal : String → Prop}

theorem declared_of_unread {statement : Stmt} {names : List String}
    (unread : statement.NamesWithin fun name => ¬ isLocal name) :
    statement.NamesWithin fun name => isLocal name → name ∈ names :=
  unread.imp fun _ notLocal among => absurd among notLocal

/-- A block that declares all its names before it reads a local one, and reads no others. -/
theorem declaredFirst_of_split {upper lower : List Stmt}
    (unread : ∀ statement ∈ upper, statement.NamesWithin fun name => ¬ isLocal name)
    (declared : ∀ statement ∈ lower, statement.NamesWithin fun name =>
      isLocal name → name ∈ upper.flatMap Stmt.declared)
    (settled : ∀ statement ∈ lower, statement.declared = [])
    (distinct : (upper.flatMap Stmt.declared).Nodup)
    (locals : ∀ name ∈ upper.flatMap Stmt.declared, isLocal name) :
    DeclaredFirst isLocal (upper ++ lower) := by
  have names : (upper ++ lower).flatMap Stmt.declared = upper.flatMap Stmt.declared := by
    rw [List.flatMap_append, List.flatMap_eq_nil_iff.mpr settled, List.append_nil]
  constructor
  case above =>
    apply ReadsAbove.append
    · apply ReadsAbove.of_unread
      intro statement member name isRead
      exact unread statement member name isRead.1 isRead.2
    · exact fun statement member name isRead => declared statement member name isRead.1 isRead.2
  case once => rwa [names]
  case locals => rwa [names]

theorem declaredFirst_of_none {block : List Stmt}
    (unread : ∀ statement ∈ block, statement.NamesWithin fun name => ¬ isLocal name)
    (settled : ∀ statement ∈ block, statement.declared = []) : DeclaredFirst isLocal block := by
  apply @declaredFirst_of_split isLocal [] block (List.forall_mem_nil _) _ settled List.nodup_nil
    (List.forall_mem_nil _)
  exact fun statement member => declared_of_unread (unread statement member)

end DeclaredFirst

/-- No field gets its value from a member of the class but from fields above it. -/
def ClassDecl.InitializedInOrder (decl : ClassDecl) : Prop :=
  ReadsAbove (fun field property => ∃ init ∈ field.init, .path decl.name property ∈ init.subterms)
    (fun field => [field.name]) decl.fields

/-! ## The base of an object -/

def Stmt.isSuper : Stmt → Bool
  | .super _ => true
  | _ => false

def Stmt.MentionsSelf (statement : Stmt) : Prop :=
  ∃ root ∈ statement.expressions, .self ∈ root.subterms

/-- A constructor body constructs the base once, and up to there nothing mentions the object. -/
def BaseFirst (body : List Stmt) : Prop :=
  ∃ before arguments after, body = before ++ .super arguments :: after ∧
    (∀ statement ∈ before ++ after, statement.isSuper = false) ∧
    ∀ statement ∈ before ++ [.super arguments], ¬ statement.MentionsSelf

end TypeScript

open TypeScript

namespace Room

variable {room : Room} {groups : RoomGroups}

/-! ## Fields -/

/-- What a field reads of its class to get its value. -/
def FieldReads (room : Room) (field : Field) (property : String) : Prop :=
  ∃ init ∈ field.init, room.own property ∈ init.subterms

theorem deviceField_reads {device : Device} {field : Field}
    (found : room.deviceField? device = some field) {property : String}
    (isRead : room.FieldReads field property) : property = "roomName" := by
  obtain ⟨init, isInit, inside⟩ := isRead
  unfold deviceField? at found
  split at found
  · obtain rfl := Option.some.inj found
    obtain rfl := Option.some.inj isInit
    simpa [own, Expr.path] using inside
  · split at found
    · obtain rfl := Option.some.inj found
      obtain rfl := Option.some.inj isInit
      simp [own, Expr.path] at inside
    · contradiction

theorem fixedFields_inOrder (room : Room) :
    ReadsAbove room.FieldReads (fun field => [field.name]) room.fixedFields := by
  -- The third and the fourth field each read one field above them; the first two and the last
  -- read none.
  have split : room.fixedFields = (room.fixedFields.take 2 ++ (room.fixedFields.drop 2).take 1) ++
      room.fixedFields.drop 3 := rfl
  rw [split]
  refine ReadsAbove.append (ReadsAbove.append (.of_unread ?_) ?_) ?_
  all_goals simp [fixedFields, publicField, FieldReads, own, Expr.path]

theorem initializedInOrder (room : Room) (groups : RoomGroups) :
    (room.classDecl groups).InitializedInOrder := by
  apply ReadsAbove.append (fixedFields_inOrder room)
  intro field member property isRead
  obtain ⟨device, _, found⟩ := List.mem_filterMap.mp member
  rw [deviceField_reads found isRead]
  simp [fixedFields, publicField]

/-! ## Local names -/

/-- The names that blocks of a room keep to themselves. -/
inductive IsLocal : String → Prop
  | groups : IsLocal "groups"
  | window (id : UInt32) : IsLocal (windowConst id)
  | adding : IsLocal "deviceAddingSettings"

theorem not_isLocal {name : String} (apart : name ∉ ["groups", "deviceAddingSettings"])
    (unprefixed : ¬ "window".toList <+: name.toList) : ¬ IsLocal name := by
  intro isLocal
  cases isLocal with
  | groups => simp at apart
  | window id => exact unprefixed (by simp [windowConst])
  | adding => simp at apart

/-- The own class and the stub of a room, and whatever else begins in the same way. -/
theorem not_isLocal_of_room (rest : String) : ¬ IsLocal ("Room" ++ rest) := by
  apply not_isLocal
  · intro member
    have texts := List.mem_map_of_mem (f := String.toList) member
    simp at texts
  · simp

theorem className_not_isLocal : ¬ IsLocal room.className := not_isLocal_of_room _

theorem customizationClass_not_isLocal : ¬ IsLocal room.customizationClass := by
  rw [customizationClass, className, String.append_assoc]
  exact not_isLocal_of_room _

theorem hook_reads_no_local (name : String) :
    (room.hook name).NamesWithin fun name => ¬ IsLocal name := by
  simp [hook, customizationClass_not_isLocal]

theorem own_reads_no_local (property : String) :
    (room.own property).NamesWithin fun name => ¬ IsLocal name :=
  namesWithin_own className_not_isLocal property

/-! ## Blocks -/

theorem namesWithin_groupArguments {allowed : String → Prop} (ownClass : allowed room.className)
    (consts : ∀ window ∈ groups.windows, allowed (windowConst window.id)) (kind : GroupKind) :
    ∀ argument ∈ room.groupArguments groups kind, argument.NamesWithin allowed := by
  have refs (devices : List Device) :
      (Expr.array (devices.map room.deviceRef)).NamesWithin allowed :=
    namesWithin_deviceRefs ownClass devices
  cases kind with
  | window => simpa [groupArguments] using consts
  | _ => exact List.forall_mem_map.mpr fun devices _ => refs devices

theorem groupClass_not_isLocal (kind : GroupKind) : ¬ IsLocal (groupClass kind) := by
  cases kind <;> exact not_isLocal (by decide) (by decide)

theorem declaredFirst_groupsMethod (increasing : (groups.windows.map (·.id)).Pairwise (· < ·)) :
    DeclaredFirst IsLocal (room.groupsMethod groups).body := by
  have windows : (groups.windows.map room.windowStmt).flatMap Stmt.declared =
      groups.windows.map fun window => windowConst window.id := by
    rw [List.flatMap_map, List.map_eq_flatMap]
    rfl
  have constants : (.const "groups" groupMap (.construct groupMap []) ::
      groups.windows.map room.windowStmt).flatMap Stmt.declared =
      "groups" :: groups.windows.map fun window => windowConst window.id := by
    rw [List.flatMap_cons, windows]
    rfl
  rw [groupsMethod_body]
  apply declaredFirst_of_split
  case unread =>
    refine List.forall_mem_cons.mpr ⟨?_, List.forall_mem_map.mpr fun window _ => ?_⟩
    · have map : leadingName groupMap = "Map" := by decide
      have notLocal : ¬ IsLocal "Map" := not_isLocal (by decide) (by decide)
      simp [map, notLocal]
    · exact namesWithin_windowStmt className_not_isLocal (not_isLocal (by decide) (by decide))
        (not_isLocal (by decide) (by decide)) window
  case declared =>
    rw [constants]
    have other {name : String} (notLocal : ¬ IsLocal name) : IsLocal name →
        name ∈ "groups" :: groups.windows.map fun window => windowConst window.id :=
      fun isLocal => absurd isLocal notLocal
    have consts : ∀ window ∈ groups.windows, IsLocal (windowConst window.id) →
        windowConst window.id ∈
          "groups" :: groups.windows.map fun window => windowConst window.id :=
      fun window member _ => List.mem_cons_of_mem _ (List.mem_map_of_mem member)
    simp only [List.forall_mem_append, List.forall_mem_map, List.forall_mem_singleton]
    refine ⟨fun kind _ => namesWithin_setGroup ?_ ?_ ?_ ?_ ?_, fun device _ => ?_, ?_⟩
    · exact fun _ => List.mem_cons_self
    · exact other (not_isLocal (by decide) (by decide))
    · exact other (groupClass_not_isLocal kind)
    · exact other className_not_isLocal
    · exact namesWithin_groupArguments (other className_not_isLocal) consts kind
    · simp only [Room.writeback, Stmt.namesWithin_assign, namesWithin_member]
      exact ⟨namesWithin_own (other className_not_isLocal) _,
        namesWithin_own (other className_not_isLocal) _⟩
    · simp
  case settled =>
    simp only [List.forall_mem_append, List.forall_mem_map, List.forall_mem_singleton]
    exact ⟨fun _ _ => rfl, fun _ _ => rfl, rfl⟩
  case distinct =>
    rw [constants]
    exact constantNames_nodup increasing
  case locals =>
    rw [constants]
    exact List.forall_mem_cons.mpr ⟨.groups, List.forall_mem_map.mpr fun window _ => .window _⟩

theorem declared_roomOverrides : room.roomOverrides.flatMap Stmt.declared = [] := by
  unfold roomOverrides
  cases room.settings with
  | none => rfl
  | some settings => exact List.flatMap_eq_nil_iff.mpr (List.forall_mem_map.mpr fun _ _ => rfl)

/-- The constructor up to the construction of the base. -/
def beforeBase (room : Room) : List Stmt :=
  room.roomOverrides ++ [.const "groups" groupMap (.call (room.own "buildGroups") [])]

theorem construction_split (room : Room) : ∃ later, room.construction = room.beforeBase ++
      .super [room.own "InitialRoomSettings", room.own "RoomSettings", .ident "groups"] :: later ∧
    ∀ statement ∈ later, statement.declared = [] ∧ statement.isSuper = false ∧
      statement.NamesWithin fun name => ¬ IsLocal name := by
  simp only [construction, beforeBase, List.append_assoc, List.cons_append, List.nil_append]
  refine ⟨_, rfl, ?_⟩
  simp only [List.forall_mem_cons, List.forall_mem_append, List.forall_mem_map]
  refine ⟨⟨rfl, rfl, ?_⟩, fun device _ => ⟨rfl, rfl, ?_⟩, ⟨rfl, rfl, ?_⟩, ⟨rfl, rfl, ?_⟩,
    ⟨rfl, rfl, hook_reads_no_local _⟩, ⟨rfl, rfl, ?_⟩, List.forall_mem_nil _⟩
  all_goals simp [callSelf, own_reads_no_local]

theorem declaredFirst_construction (room : Room) : DeclaredFirst IsLocal room.construction := by
  obtain ⟨later, split, settled⟩ := construction_split room
  have constants : room.beforeBase.flatMap Stmt.declared = ["groups"] := by
    rw [beforeBase, List.flatMap_append, declared_roomOverrides]
    rfl
  rw [split]
  apply declaredFirst_of_split
  case unread =>
    refine List.forall_mem_append.mpr ⟨namesWithin_roomOverrides className_not_isLocal,
      List.forall_mem_singleton.mpr ?_⟩
    have map : leadingName groupMap = "Map" := by decide
    have notLocal : ¬ IsLocal "Map" := not_isLocal (by decide) (by decide)
    simp [map, notLocal, own_reads_no_local]
  case declared =>
    rw [constants]
    have ownClass : IsLocal room.className → room.className ∈ ["groups"] :=
      fun isLocal => absurd isLocal className_not_isLocal
    refine List.forall_mem_cons.mpr ⟨?_, fun statement member => ?_⟩
    · simp only [Stmt.namesWithin_super, List.forall_mem_cons]
      refine ⟨namesWithin_own ownClass _, namesWithin_own ownClass _, ?_, List.forall_mem_nil _⟩
      simp
    · exact declared_of_unread (settled statement member).2.2
  case settled =>
    exact List.forall_mem_cons.mpr ⟨rfl, fun statement member => (settled statement member).1⟩
  case distinct =>
    rw [constants]
    exact List.nodup_singleton _
  case locals =>
    rw [constants]
    exact List.forall_mem_singleton.mpr .groups

theorem baseFirst_construction (room : Room) : BaseFirst room.construction := by
  obtain ⟨later, split, settled⟩ := construction_split room
  have overrides : ∀ statement ∈ room.roomOverrides,
      statement.isSuper = false ∧ ¬ statement.MentionsSelf := by
    unfold roomOverrides
    cases room.settings with
    | none => exact List.forall_mem_nil _
    | some settings =>
        refine List.forall_mem_map.mpr fun _ _ => ⟨rfl, ?_⟩
        simp [Stmt.MentionsSelf, Stmt.expressions, own, Expr.path]
  refine ⟨_, _, later, split, ?_, ?_⟩
  · simp only [beforeBase, List.forall_mem_append, List.forall_mem_singleton]
    exact ⟨⟨fun statement member => (overrides statement member).1, rfl⟩,
      fun statement member => (settled statement member).2.1⟩
  · simp only [beforeBase, List.forall_mem_append, List.forall_mem_singleton]
    refine ⟨⟨fun statement member => (overrides statement member).2, ?_⟩, ?_⟩
    · simp [Stmt.MentionsSelf, Stmt.expressions, own, Expr.path]
    · simp [Stmt.MentionsSelf, Stmt.expressions, own, Expr.path]

theorem declaredFirst_trailing (room : Room) : DeclaredFirst IsLocal room.trailing := by
  have service : (Stmt.expr (.call (.path "RoomService" "addInitialRoomSettings")
      [room.own "InitialRoomSettings"])).NamesWithin fun name => ¬ IsLocal name := by
    have notLocal : ¬ IsLocal "RoomService" := not_isLocal_of_room "Service"
    simp [notLocal, own_reads_no_local]
  unfold trailing
  cases room.hasManagedDevices with
  | false =>
      exact declaredFirst_of_none (List.forall_mem_singleton.mpr service)
        (List.forall_mem_singleton.mpr rfl)
  | true =>
      rw [if_pos rfl, List.cons_append, ← List.singleton_append]
      apply declaredFirst_of_split
      case unread =>
        have type : leadingName "RoomDeviceAddingSettings" = "RoomDeviceAddingSettings" := by
          decide
        have notLocal : ¬ IsLocal "RoomDeviceAddingSettings" :=
          not_isLocal_of_room "DeviceAddingSettings"
        simp [type, notLocal, own_reads_no_local]
      case declared =>
        have own (property : String) : (room.own property).NamesWithin fun name =>
            IsLocal name → name = "deviceAddingSettings" :=
          namesWithin_own (fun isLocal => absurd isLocal className_not_isLocal) property
        have type : ¬ IsLocal "DeviceType" := not_isLocal (by decide) (by decide)
        simp only [List.forall_mem_append, List.forall_mem_map, List.forall_mem_singleton]
        refine ⟨⟨fun device _ => ?_, ?_⟩, ?_⟩
        · simp [addDeviceStmt, Stmt.declared, type, own]
        · simp [Stmt.declared, own]
        · exact declared_of_unread service
      case settled =>
        simp only [List.forall_mem_append, List.forall_mem_map, List.forall_mem_singleton]
        exact ⟨⟨fun _ _ => rfl, rfl⟩, rfl⟩
      case distinct => exact List.nodup_singleton _
      case locals => exact List.forall_mem_singleton.mpr .adding

/-! ## The whole module -/

theorem declaredFirst_methods (increasing : (groups.windows.map (·.id)).Pairwise (· < ·)) :
    ∀ method ∈ (room.classDecl groups).methods, DeclaredFirst IsLocal method.body := by
  have overrides : ∀ device, ∀ statement ∈ room.overrides device,
      statement.NamesWithin (fun name => ¬ IsLocal name) ∧ statement.declared = [] := by
    intro device
    unfold overrides
    cases device.plan.settings with
    | none => exact List.forall_mem_nil _
    | some settings =>
        exact List.forall_mem_map.mpr fun _ _ => ⟨by simp [own_reads_no_local], rfl⟩
  have mutator (device : Device) : DeclaredFirst IsLocal (room.mutator device).body := by
    have notLocal : ¬ IsLocal "id" := not_isLocal (by decide) (by decide)
    apply declaredFirst_of_none
    · simp [Room.mutator, notLocal, own_reads_no_local]
    · exact List.forall_mem_singleton.mpr rfl
  have setup : DeclaredFirst IsLocal room.setupMethod.body := by
    apply declaredFirst_of_none
    · simp only [setupMethod, List.forall_mem_cons, List.forall_mem_append, List.forall_mem_flatMap]
      exact ⟨hook_reads_no_local _, fun device _ statement member =>
        (overrides device statement member).1, hook_reads_no_local _, List.forall_mem_nil _⟩
    · simp only [setupMethod, List.forall_mem_cons, List.forall_mem_append, List.forall_mem_flatMap]
      exact ⟨rfl, fun device _ statement member => (overrides device statement member).2, rfl,
        List.forall_mem_nil _⟩
  simp only [classDecl, mutators, List.forall_mem_append, List.forall_mem_map,
    List.forall_mem_cons]
  exact ⟨fun device _ => mutator device, setup, declaredFirst_groupsMethod increasing,
    List.forall_mem_nil _⟩

end Room

/-- Nothing in a class and in the statements behind it is used before it is there. -/
structure TypeScript.EvaluatedInOrder (isLocal : String → Prop) (decl : ClassDecl)
    (trailing : List Stmt) : Prop where
  fields : decl.InitializedInOrder
  methods : ∀ method ∈ decl.methods, DeclaredFirst isLocal method.body
  construction : ∃ body, decl.construction = some body ∧ DeclaredFirst isLocal body ∧
    BaseFirst body
  trailing : DeclaredFirst isLocal trailing

/-- The module of a room, whatever groups it has, is evaluated in order. -/
theorem Room.evaluated_in_order {room : Room} {groups : RoomGroups}
    (assembled : RoomGroups.ofRoom room = .ok groups) (options : RenderOptions) :
    ∃ decl trailing, (room.toModule groups options).items = .classDecl decl :: trailing.map .stmt ∧
      room.groupsMethod groups ∈ decl.methods ∧ EvaluatedInOrder IsLocal decl trailing := by
  obtain ⟨windows, _⟩ := RoomGroups.ofRoom_eq_ok_iff.mp assembled
  have increasing : (groups.windows.map (·.id)).Pairwise (· < ·) :=
    WindowAssembly.map_id_of_assembled windows ▸ room.windowIds_increasing
  refine ⟨room.classDecl groups, room.trailing, rfl, by simp [classDecl], ?_⟩
  constructor
  case fields => exact initializedInOrder room groups
  case methods => exact declaredFirst_methods increasing
  case construction =>
    exact ⟨room.construction, rfl, declaredFirst_construction room, baseFirst_construction room⟩
  case trailing => exact declaredFirst_trailing room

/-- Room settings, two windows and a handle that is registered with the managed registry. -/
theorem Room.evaluated_in_order_with_two_windows :
    let plan : RoomPlan :=
      { shortName := "Bad", longName := "Bad", floor := 1,
        settings := some (.ofMembers [("ruhe", .bool true)]) }
    let devices : List DevicePlan :=
      [{ type := "Window", index := 1, windowId := some 7 },
        { type := "HmIpGriff", index := 0, windowId := some 7 },
        { type := "Window", index := 0, windowId := some 2 }]
    let room := (Room.vacant plan).afterInsertions
      (devices.filterMap (Room.Insertion.ofPlan? .builtin plan.shortName))
    ∃ groups, RoomGroups.ofRoom room = .ok groups ∧ groups.windows.map (·.id) = [2, 7] ∧
      room.hasManagedDevices = true ∧ ∃ decl trailing,
        (room.toModule groups {}).items = .classDecl decl :: trailing.map .stmt ∧
        room.groupsMethod groups ∈ decl.methods ∧ EvaluatedInOrder IsLocal decl trailing := by
  intro plan devices room
  have runs : (RoomGroups.ofRoom room >>= fun groups =>
      .ok (groups.windows.map (·.id), room.hasManagedDevices)) = .ok ([2, 7], true) := by
    decide +kernel
  obtain ⟨groups, assembled, found⟩ := bind_eq_ok.mp runs
  obtain ⟨ids, managed⟩ := Prod.mk.inj (Except.ok.inj found)
  exact ⟨groups, assembled, ids, managed, Room.evaluated_in_order assembled {}⟩

end Homeplan
