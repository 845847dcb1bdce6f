import Homeplan.Proofs.Artifact.FreeNames

namespace Homeplan

open TypeScript

/-! The statements that build the groups of a room.

Every kind of group is set once, with one argument for each list of its group.  The statements are
read back by what they do, so that nothing is left out that stands between them.
-/

/-! ## Statements by what they do -/

/-- The arguments of a call that sets a group. -/
def groupSet? : Stmt → Option (List Expr)
  | .expr (.call (.member (.ident "groups") "set") arguments) => some arguments
  | _ => none

/-- The name, the type and the value that a statement declares. -/
def constant? : Stmt → Option (String × String × Expr)
  | .const name type value => some (name, type, value)
  | _ => none

/-- The target and the value of an assignment. -/
def assignment? : Stmt → Option (Expr × Expr)
  | .assign target value => some (target, value)
  | _ => none

/-! ## What the statements of a kind hold -/

/-- The lists of the group of a kind, in the order of its constructor; windows have lists of their
own. -/
def RoomGroups.lists? (groups : RoomGroups) : GroupKind → Option (List (List Device))
  | .window => none
  | .presence => groups.presence.map fun group => [group.motion, group.presence]
  | .light => groups.light.map fun group => [group.lamps, group.plugs, group.leds, group.stripes]
  | .buttons => groups.buttons.map fun devices => [devices]
  | .smoke => groups.smoke.map fun devices => [devices]
  | .water => groups.water.map fun devices => [devices]
  | .heating => groups.heating.map fun group =>
      [group.heaters, group.temperature, group.humidity, group.airConditioners]
  | .speaker => groups.speakers.map fun devices => [devices]

theorem RoomGroups.mem_kinds_iff_isSome {groups : RoomGroups} {kind : GroupKind}
    (notWindow : kind ≠ .window) :
    kind ∈ groups.kinds ↔ (groups.lists? kind).isSome = true := by
  cases kind with
  | window => contradiction
  | _ => simp [kinds, lists?]

namespace Room

/-- What a group is constructed from behind the name of the room. -/
def groupArguments (room : Room) (groups : RoomGroups) : GroupKind → List Expr
  | .window => [.array (groups.windows.map fun window => .ident (windowConst window.id))]
  | kind => ((groups.lists? kind).getD []).map fun devices => .array (devices.map room.deviceRef)

def motorRef (room : Room) : Option Device → Expr
  | some device => room.deviceRef device
  | none => .ident "undefined"

def windowArguments (room : Room) (window : WindowAssembly) : List Expr :=
  [room.own "roomName", .array (window.handles.map room.deviceRef),
    .array (window.vibrations.map room.deviceRef), room.motorRef window.blindMotor,
    .array (window.magnetContacts.map room.deviceRef), .bool window.noShutterOnSunrise]

def groupStmt (room : Room) (groups : RoomGroups) (kind : GroupKind) : Stmt :=
  room.setGroup kind (room.groupArguments groups kind)

variable {room : Room} {groups : RoomGroups}

theorem windowStmt_eq (room : Room) (window : WindowAssembly) :
    room.windowStmt window = .const (windowConst window.id) "Windows.Window"
      (.construct "Windows.Window" (room.windowArguments window)) := by
  unfold windowStmt windowArguments motorRef
  cases window.blindMotor <;> rfl

theorem groupStmts_of_not_window {kind : GroupKind} (notWindow : kind ≠ .window) :
    room.groupStmts groups kind = (groups.lists? kind).toList.map fun lists =>
      room.setGroup kind (lists.map room.deviceRefs) := by
  cases kind with
  | window => contradiction
  | _ => simp [groupStmts, RoomGroups.lists?, Option.toList_map]

theorem groupStmts_eq_singleton {kind : GroupKind} (built : kind ∈ groups.kinds)
    (notWindow : kind ≠ .window) : room.groupStmts groups kind = [room.groupStmt groups kind] := by
  obtain ⟨lists, present⟩ := Option.isSome_iff_exists.mp
    ((RoomGroups.mem_kinds_iff_isSome notWindow).mp built)
  rw [groupStmts_of_not_window notWindow, groupStmt, groupArguments, present]
  · rfl
  · exact notWindow

/-! ## The statements of the whole method -/

/-- Windows come first, if there are any. -/
theorem kinds_split (groups : RoomGroups) :
    ∃ later, groups.kinds = (if groups.windows = [] then [] else [.window]) ++ later ∧
      ∀ kind ∈ later, kind ≠ .window := by
  have all : GroupKind.all.Pairwise fun _ later => later ≠ .window := by decide
  have ordered := all.sublist groups.kinds_sublist
  by_cases none : groups.windows = []
  · refine ⟨groups.kinds, by rw [if_pos none, List.nil_append], ?_⟩
    rintro kind built rfl
    exact window_mem_kinds_iff.mp built none
  · have built : .window ∈ groups.kinds := window_mem_kinds_iff.mpr none
    cases kinds : groups.kinds with
    | nil =>
        rw [kinds] at built
        contradiction
    | cons first later =>
        rw [kinds] at built ordered
        obtain ⟨others, _⟩ := List.pairwise_cons.mp ordered
        have first_eq : GroupKind.window = first :=
          (List.mem_cons.mp built).resolve_right fun isLater => others _ isLater rfl
        exact ⟨later, by rw [if_neg none, ← first_eq, List.singleton_append], others⟩

theorem flatMap_groupStmts (room : Room) (groups : RoomGroups) :
    groups.kinds.flatMap (room.groupStmts groups) =
      groups.windows.map room.windowStmt ++ groups.kinds.map (room.groupStmt groups) := by
  obtain ⟨later, kinds, others⟩ := kinds_split groups
  have laterSets : later.flatMap (room.groupStmts groups) = later.map (room.groupStmt groups) := by
    rw [List.map_eq_flatMap]
    apply List.flatMap_congr
    intro kind isLater
    have built : kind ∈ groups.kinds := kinds ▸ List.mem_append_right _ isLater
    exact groupStmts_eq_singleton built (others kind isLater)
  rw [kinds, List.flatMap_append, List.map_append, laterSets]
  by_cases none : groups.windows = []
  · simp [none]
  · rw [if_neg none, List.flatMap_singleton, ← List.append_assoc]
    rfl

/-- All windows stand above all statements that set a group. -/
theorem groupsMethod_body (room : Room) (groups : RoomGroups) :
    (room.groupsMethod groups).body =
      (.const "groups" groupMap (.construct groupMap []) :: groups.windows.map room.windowStmt) ++
        (groups.kinds.map (room.groupStmt groups) ++
          (groups.roomNameWritebacks.map room.writeback ++ [.returned (.ident "groups")])) := by
  rw [groupsMethod, flatMap_groupStmts]
  simp only [List.cons_append, List.append_assoc]

theorem filterMap_map_eq_nil {read : Stmt → Option α} {items : List β} {statement : β → Stmt}
    (unread : ∀ item, read (statement item) = none) :
    (items.map statement).filterMap read = [] := by
  rw [List.filterMap_map, List.filterMap_eq_nil_iff]
  exact fun item _ => unread item

theorem filterMap_map_eq_map {read : Stmt → Option α} {items : List β} {statement : β → Stmt}
    {found : β → α} (reads : ∀ item, read (statement item) = some (found item)) :
    (items.map statement).filterMap read = items.map found := by
  rw [List.filterMap_map, ← List.filterMap_eq_map]
  exact List.filterMap_congr fun item _ => reads item

theorem filterMap_groupSet? (room : Room) (groups : RoomGroups) :
    (room.groupsMethod groups).body.filterMap groupSet? = groups.kinds.map fun kind =>
      [.path "GroupType" (groupKey kind),
        .construct (groupClass kind) (room.own "roomName" :: room.groupArguments groups kind)] := by
  have windows : (groups.windows.map room.windowStmt).filterMap groupSet? = [] :=
    filterMap_map_eq_nil fun _ => rfl
  have sets : (groups.kinds.map (room.groupStmt groups)).filterMap groupSet? =
      groups.kinds.map fun kind => [.path "GroupType" (groupKey kind),
        .construct (groupClass kind) (room.own "roomName" :: room.groupArguments groups kind)] :=
    filterMap_map_eq_map fun _ => rfl
  have writebacks : (groups.roomNameWritebacks.map room.writeback).filterMap groupSet? = [] :=
    filterMap_map_eq_nil fun _ => rfl
  rw [groupsMethod_body, List.filterMap_append, List.filterMap_append, List.filterMap_append,
    List.filterMap_cons_none rfl, windows, sets, writebacks]
  exact List.append_nil _

theorem filterMap_constant? (room : Room) (groups : RoomGroups) :
    (room.groupsMethod groups).body.filterMap constant? =
      ("groups", groupMap, .construct groupMap []) :: groups.windows.map fun window =>
        (windowConst window.id, "Windows.Window",
          .construct "Windows.Window" (room.windowArguments window)) := by
  have sets : (groups.kinds.map (room.groupStmt groups)).filterMap constant? = [] :=
    filterMap_map_eq_nil fun _ => rfl
  have writebacks : (groups.roomNameWritebacks.map room.writeback).filterMap constant? = [] :=
    filterMap_map_eq_nil fun _ => rfl
  have map : constant? (.const "groups" groupMap (.construct groupMap [])) =
      some ("groups", groupMap, .construct groupMap []) := rfl
  rw [groupsMethod_body, List.filterMap_append, List.filterMap_append, List.filterMap_append,
    List.filterMap_cons_some map, sets, writebacks, filterMap_map_eq_map fun window =>
      congrArg constant? (room.windowStmt_eq window)]
  exact List.append_nil _

theorem filterMap_assignment? (room : Room) (groups : RoomGroups) :
    (room.groupsMethod groups).body.filterMap assignment? =
      groups.roomNameWritebacks.map fun device =>
        (.member (room.own device.name) "roomName", room.own "displayName") := by
  have windows : (groups.windows.map room.windowStmt).filterMap assignment? = [] :=
    filterMap_map_eq_nil fun _ => rfl
  have sets : (groups.kinds.map (room.groupStmt groups)).filterMap assignment? = [] :=
    filterMap_map_eq_nil fun _ => rfl
  have writebacks : (groups.roomNameWritebacks.map room.writeback).filterMap assignment? =
      groups.roomNameWritebacks.map fun device =>
        (.member (room.own device.name) "roomName", room.own "displayName") :=
    filterMap_map_eq_map fun _ => rfl
  rw [groupsMethod_body, List.filterMap_append, List.filterMap_append, List.filterMap_append,
    List.filterMap_cons_none rfl, windows, sets, writebacks]
  exact List.append_nil _

/-- No statement behind one that sets a group declares anything. -/
theorem constants_before_groups (room : Room) (groups : RoomGroups) :
    (room.groupsMethod groups).body.Pairwise fun earlier later =>
      (groupSet? earlier).isSome = true → constant? later = none := by
  have unset : ∀ statement ∈ .const "groups" groupMap (.construct groupMap []) ::
      groups.windows.map room.windowStmt, ¬ (groupSet? statement).isSome = true :=
    List.forall_mem_cons.mpr ⟨Bool.false_ne_true,
      List.forall_mem_map.mpr fun _ _ => Bool.false_ne_true⟩
  have undeclared : ∀ statement ∈ groups.kinds.map (room.groupStmt groups) ++
      (groups.roomNameWritebacks.map room.writeback ++ [.returned (.ident "groups")]),
      constant? statement = none := by
    simp only [List.forall_mem_append, List.forall_mem_map, List.forall_mem_singleton]
    exact ⟨fun _ _ => rfl, fun _ _ => rfl, rfl⟩
  rw [groupsMethod_body]
  refine List.pairwise_append.mpr ⟨?_, ?_, ?_⟩
  · exact List.pairwise_of_forall_mem_list fun earlier member _ _ sets =>
      absurd sets (unset earlier member)
  · exact List.pairwise_of_forall_mem_list fun _ _ later member _ => undeclared later member
  · exact fun _ _ later member _ => undeclared later member

/-! ## Names of constants -/

theorem windowConst_injective {left right : UInt32}
    (same : windowConst left = windowConst right) : left = right :=
  UInt32.toNat_inj.mp (Text.eq_of_toString_eq ((String.append_right_inj "window").mp same))

theorem windowConst_ne {name : String} (unprefixed : ¬ "window".toList <+: name.toList)
    (id : UInt32) : windowConst id ≠ name := by
  rintro rfl
  exact unprefixed (by simp [windowConst])

theorem constantNames_nodup (increasing : (groups.windows.map (·.id)).Pairwise (· < ·)) :
    ("groups" :: groups.windows.map fun window => windowConst window.id).Nodup := by
  have ids : (groups.windows.map (·.id)).Nodup := by
    apply increasing.imp
    rintro left _ before rfl
    exact UInt32.lt_irrefl left before
  rw [List.nodup_cons]
  constructor
  · intro isWindow
    obtain ⟨window, _, same⟩ := List.mem_map.mp isWindow
    exact windowConst_ne (by decide) window.id same
  · refine List.Pairwise.map _ (fun _ _ apart => ?_) (List.pairwise_map.mp ids)
    exact fun same => apart (windowConst_injective same)

/-! ## References to devices -/

/-- Devices with members are told apart by what groups get for them. -/
theorem Consistent.deviceRef_injective (consistent : room.Consistent) {left right : Device}
    (leftInRoom : left ∈ room.devices) (leftMembers : left.deviceClass ≠ .window)
    (rightInRoom : right ∈ room.devices) (rightMembers : right.deviceClass ≠ .window)
    (same : room.deviceRef left = room.deviceRef right) : left = right := by
  apply consistent.device_eq_of_name leftInRoom (left.hasMembers_iff.mpr leftMembers) rightInRoom
    (right.hasMembers_iff.mpr rightMembers)
  unfold deviceRef own Expr.path at same
  -- A singleton is reached one property deeper than the slot of a bus-addressed device.
  cases leftKind : left.isSingleton <;> cases rightKind : right.isSingleton <;>
    simp only [leftKind, rightKind, Bool.false_eq_true, if_true, if_false, Expr.member.injEq,
      true_and, and_true, reduceCtorEq, false_and] at same
  · exact Device.identifier_eq_iff.mp same
  · exact same

theorem Consistent.eq_of_deviceRefs (consistent : room.Consistent) {lefts rights : List Device}
    (leftsInRoom : ∀ device ∈ lefts, device ∈ room.devices ∧ device.deviceClass ≠ .window)
    (rightsInRoom : ∀ device ∈ rights, device ∈ room.devices ∧ device.deviceClass ≠ .window)
    (same : lefts.map room.deviceRef = rights.map room.deviceRef) : lefts = rights := by
  induction lefts generalizing rights with
  | nil => exact (List.map_eq_nil_iff.mp same.symm).symm
  | cons left lefts ih =>
      cases rights with
      | nil => contradiction
      | cons right rights =>
          obtain ⟨first, later⟩ := List.cons.inj same
          obtain ⟨⟨leftInRoom, leftMembers⟩, leftsLater⟩ := List.forall_mem_cons.mp leftsInRoom
          obtain ⟨⟨rightInRoom, rightMembers⟩, rightsLater⟩ := List.forall_mem_cons.mp rightsInRoom
          rw [consistent.deviceRef_injective leftInRoom leftMembers rightInRoom rightMembers first,
            ih leftsLater rightsLater later]

theorem motorRef_eq_undefined_iff {motor : Option Device} :
    room.motorRef motor = .ident "undefined" ↔ motor = none := by
  cases motor with
  | none => exact ⟨fun _ => rfl, fun _ => rfl⟩
  | some device =>
      have named : room.deviceRef device ≠ .ident "undefined" := by
        unfold deviceRef own Expr.path
        split <;> simp
      simpa [motorRef] using named

/-- The method that builds the groups of a room says what the groups hold, and nothing else. -/
structure GroupsEncoded (room : Room) (groups : RoomGroups) : Prop where
  /-- Every kind is set once, with its lists as they are in its group. -/
  sets : (room.groupsMethod groups).body.filterMap groupSet? = groups.kinds.map fun kind =>
    [.path "GroupType" (groupKey kind),
      .construct (groupClass kind) (room.own "roomName" :: room.groupArguments groups kind)]
  keys_distinct : (groups.kinds.map groupKey).Nodup
  classes_distinct : (groups.kinds.map groupClass).Nodup
  /-- Besides the groups, every window is declared once, with its lists. -/
  constants : (room.groupsMethod groups).body.filterMap constant? =
    ("groups", groupMap, .construct groupMap []) :: groups.windows.map fun window =>
      (windowConst window.id, "Windows.Window",
        .construct "Windows.Window" (room.windowArguments window))
  names_distinct : (((room.groupsMethod groups).body.filterMap constant?).map (·.1)).Nodup
  ids_increase : (groups.windows.map (·.id)).Pairwise (· < ·)
  constants_first : (room.groupsMethod groups).body.Pairwise fun earlier later =>
    (groupSet? earlier).isSome = true → constant? later = none
  motor_undefined_iff : ∀ window ∈ groups.windows,
    room.motorRef window.blindMotor = .ident "undefined" ↔ window.blindMotor = none
  /-- Nothing is assigned but the name of the room, to the devices that learn it. -/
  writebacks : (room.groupsMethod groups).body.filterMap assignment? =
    groups.roomNameWritebacks.map fun device =>
      (.member (room.own device.name) "roomName", room.own "displayName")
  references_differ : ∀ left ∈ room.devices, ∀ right ∈ room.devices,
    left.deviceClass ≠ .window → right.deviceClass ≠ .window → left ≠ right →
      room.deviceRef left ≠ room.deviceRef right
  lists_determined : ∀ lefts rights : List Device,
    (∀ device ∈ lefts, device ∈ room.devices ∧ device.deviceClass ≠ .window) →
    (∀ device ∈ rights, device ∈ room.devices ∧ device.deviceClass ≠ .window) →
      lefts.map room.deviceRef = rights.map room.deviceRef → lefts = rights

theorem groups_encoded {plan : RoomPlan} {fresh : Room} (accepted : Room.ofPlan plan = .ok fresh)
    (insertions : List Insertion) {groups : RoomGroups}
    (assembled : RoomGroups.ofRoom (fresh.afterInsertions insertions) = .ok groups) :
    (fresh.afterInsertions insertions).GroupsEncoded groups := by
  have consistent := (Consistent.ofPlan accepted).afterInsertions insertions
  have allKeys : (GroupKind.all.map groupKey).Nodup := by decide
  have allClasses : (GroupKind.all.map groupClass).Nodup := by decide
  have increasing := (RoomGroups.windowsMatch_of_ofRoom consistent assembled).increasing
  constructor
  case sets => exact filterMap_groupSet? _ groups
  case keys_distinct => exact allKeys.sublist (groups.kinds_sublist.map groupKey)
  case classes_distinct => exact allClasses.sublist (groups.kinds_sublist.map groupClass)
  case constants => exact filterMap_constant? _ groups
  case names_distinct =>
    rw [filterMap_constant?, List.map_cons, List.map_map]
    exact constantNames_nodup increasing
  case ids_increase => exact increasing
  case constants_first => exact constants_before_groups _ groups
  case motor_undefined_iff => exact fun _ _ => motorRef_eq_undefined_iff
  case writebacks => exact filterMap_assignment? _ groups
  case references_differ =>
    intro left leftInRoom right rightInRoom leftMembers rightMembers different same
    exact different (consistent.deviceRef_injective leftInRoom leftMembers rightInRoom rightMembers
      same)
  case lists_determined =>
    intro lefts rights leftsInRoom rightsInRoom same
    exact consistent.eq_of_deviceRefs leftsInRoom rightsInRoom same

/-- The attempt to add the device of a plan, if the plan compiles. -/
def Insertion.ofPlan? (catalog : Catalog) (owner : String) (plan : DevicePlan) :
    Option Insertion :=
  match compiled : Device.compile catalog owner plan with
  | .ok device => some ⟨catalog, device, catalog, owner, plan, compiled⟩
  | .error _ => none

/-- Two windows that came in out of order, one of them without a motor, a smoke detector that learns
the name of its room, and a speaker. -/
theorem groups_encoded_with_two_windows :
    let plan : RoomPlan := { shortName := "Bad", longName := "Bad", floor := 1 }
    let devices : List DevicePlan :=
      [{ type := "OwnSonosDevice", index := 0, includeInGroup := true },
        { type := "Window", index := 1, windowId := some 7 },
        { type := "HmIpGriff", index := 0, windowId := some 7 },
        { type := "Window", index := 0, windowId := some 2 },
        { type := "HmIpRoll", index := 0, windowId := some 2 },
        { type := "ZigbeeHeimanSmoke", index := 0, includeInGroup := true }]
    let room := (vacant plan).afterInsertions
      (devices.filterMap (Insertion.ofPlan? .builtin plan.shortName))
    ∃ groups, RoomGroups.ofRoom room = .ok groups ∧ groups.kinds = [.window, .smoke, .speaker] ∧
      groups.windows.map (·.id) = [2, 7] ∧ room.GroupsEncoded groups := by
  intro plan devices room
  have accepted : Room.ofPlan plan = .ok (vacant plan) := by decide +kernel
  have runs : (RoomGroups.ofRoom room >>= fun groups =>
      .ok (groups.kinds, groups.windows.map (·.id))) =
      .ok ([.window, .smoke, .speaker], [2, 7]) := by
    decide +kernel
  obtain ⟨groups, assembled, found⟩ := bind_eq_ok.mp runs
  obtain ⟨kinds, ids⟩ := Prod.mk.inj (Except.ok.inj found)
  exact ⟨groups, assembled, kinds, ids, groups_encoded accepted _ assembled⟩

end Room

end Homeplan
