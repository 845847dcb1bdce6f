import Homeplan.Proofs.Artifact.References
import Homeplan.Proofs.TypeScript.Identifiers

namespace Homeplan

/-! Which names of members are identifiers.

A declaration prints the name of its member as it is, while a reference has a name in brackets that
is no identifier.  Custom names lose their blanks and dots beforehand and display names lose
nothing, so the names of some devices are declared in a form that no reference has.
-/

open TypeScript

/-- A custom name can also have blanks and dots where an identifier has underscores, and a display
name can be missing where a number follows it. -/
def DevicePlan.Spelled (plan : DevicePlan) (displayName : String) : Prop :=
  match plan.customName with
  | some name => ∃ first rest, name.toList = first :: rest ∧
      (isIdentifierStart first = true ∨ first = ' ' ∨ first = '.') ∧
      ∀ part ∈ rest, isIdentifierPart part = true ∨ part = ' ' ∨ part = '.'
  | none => isIdentifier displayName = true ∨ displayName = "" ∧ 1 < plan.index

theorem memberSafe_allowed_iff {allowed : Char → Bool} (underscore : allowed '_' = true)
    {character : Char} : allowed (Device.memberSafe character) = true ↔
      allowed character = true ∨ character = ' ' ∨ character = '.' := by
  unfold Device.memberSafe
  by_cases separates : character = ' ' ∨ character = '.'
  · simp [separates, underscore]
  · simp [separates]

theorem isIdentifier_numbered_iff {displayName : String} {index : Nat} :
    isIdentifier (displayName ++ "_" ++ toString index) = true ↔
      isIdentifier displayName = true ∨ displayName = "" := by
  have number : (toString index).toList.all isIdentifierPart = true := by
    rw [Nat.toString_eq_ofList_toDigits, String.toList_ofList, List.all_eq_true]
    exact fun part member => Reader.isIdentifierPart_of_isDigit
      (Nat.isDigit_of_mem_toDigits (by decide) (by decide) member)
  have numbered {start : String} (identifier : isIdentifier start = true) :
      isIdentifier (start ++ toString index) = true :=
    (isIdentifier_append_iff identifier _).mpr number
  constructor
  · intro identifier
    by_cases missing : displayName = ""
    · exact Or.inr missing
    · rw [String.append_assoc] at identifier
      exact Or.inl (isIdentifier_of_append missing identifier)
  · rintro (identifier | rfl)
    · exact numbered ((isIdentifier_append_iff identifier _).mpr (by decide +kernel))
    -- Without a display name, the underscore is the start.
    · exact numbered (by decide +kernel)

theorem isIdentifier_shortName_iff {plan : DevicePlan} {displayName : String} :
    isIdentifier (Device.shortName plan displayName) = true ↔ plan.Spelled displayName := by
  unfold Device.shortName DevicePlan.Spelled
  cases plan.customName with
  | some name =>
      have start : isIdentifierStart '_' = true := by decide +kernel
      have part : isIdentifierPart '_' = true := by decide +kernel
      simp only [isIdentifier_iff, String.toList_map, ← memberSafe_allowed_iff start,
        ← memberSafe_allowed_iff part]
      constructor
      · rintro ⟨_, _, mapped, starts, parts⟩
        obtain ⟨first, rest, letters, rfl, rfl⟩ := List.map_eq_cons_iff.mp mapped
        exact ⟨first, rest, letters, starts, List.forall_mem_map.mp parts⟩
      · rintro ⟨first, rest, letters, starts, parts⟩
        exact ⟨_, _, by rw [letters, List.map_cons], starts, List.forall_mem_map.mpr parts⟩
  | none =>
      by_cases numbered : 1 < plan.index
      · simp only [numbered, if_true, and_true]
        exact isIdentifier_numbered_iff
      · simp only [numbered, if_false, and_false, or_false]

instance (plan : DevicePlan) (displayName : String) : Decidable (plan.Spelled displayName) :=
  decidable_of_iff _ isIdentifier_shortName_iff

namespace Room

theorem memberNames_identifiers_iff (room : Room) (groups : RoomGroups) :
    (∀ name ∈ (room.classDecl groups).memberNames, isIdentifier name = true) ↔
      ∀ device ∈ room.memberDevices, isIdentifier device.name = true := by
  simp only [(memberNames_perm room groups).mem_iff, List.forall_mem_append, List.forall_mem_map]
  constructor
  · rintro ⟨_, ⟨names, _⟩, _⟩
    exact names
  · intro names
    -- Slots and mutators bring a start of their own, so of the name of a device only the parts count.
    have buses : ∀ device ∈ room.busDevices,
        device.name.toList.all isIdentifierPart = true := by
      intro device member
      obtain ⟨inRoom, bus⟩ := List.mem_filter.mp member
      have inClass : device ∈ room.memberDevices :=
        List.mem_filter.mpr ⟨inRoom, Device.hasMembers_of_isBusAddressed bus⟩
      obtain ⟨_, _, _, _, parts⟩ := Reader.parts_of_isIdentifier (names device inClass)
      exact List.all_eq_true.mpr parts
    refine ⟨by decide +kernel, ⟨names, fun device member => ?_⟩, fun device member => ?_⟩
    · exact (isIdentifier_append_iff (by decide +kernel) _).mpr (buses device member)
    · rw [Device.mutator_eq]
      exact (isIdentifier_append_iff (by decide +kernel) _).mpr (buses device member)

theorem own_text_iff (room : Room) {name : String} :
    (room.own name).text = room.className ++ "." ++ name ↔ isIdentifier name = true := by
  simp only [own, Expr.path, Expr.text]
  split
  case isTrue identifier => simp [identifier]
  case isFalse other =>
    refine iff_of_false (fun same => ?_) other
    have letters := congrArg String.toList same
    simp at letters

end Room

/-- The display names of the built-in types are identifiers, so it takes a custom name or a custom
type to spell a member differently. -/
theorem House.spelled_of_builtin {plan : HousePlan} {house : House}
    (compiled : House.compile plan = .ok house) {room : Room} (inHouse : room ∈ house.rooms)
    {device : Device} (inRoom : device ∈ room.devices) (unnamed : device.plan.customName = none)
    (builtin : device.type ∉ plan.customTypes.map (·.id)) :
    device.plan.Spelled device.entry.displayName := by
  have lists : house.catalog.Lists plan.typeRows :=
    Catalog.builtin_lists.extend (House.realizes_of_compile compiled).catalog
  obtain ⟨owner, devicePlan, deviceCompiled⟩ := House.device_compiled compiled inHouse inRoom
  obtain ⟨row, listed, same, _, rfl⟩ := lists.compile_eq_ok_iff.mp deviceCompiled
  rcases List.mem_append.mp listed with ofBuiltin | ofCustom
  · have displayNames : ∀ row ∈ Catalog.builtinRows, isIdentifier row.displayName = true := by
      decide +kernel
    rw [DevicePlan.Spelled, show devicePlan.customName = none from unnamed]
    exact Or.inl (displayNames row ofBuiltin)
  · obtain ⟨type, inPlan, described⟩ := List.mem_filterMap.mp ofCustom
    obtain ⟨_, _, rfl⟩ := Option.map_eq_some_iff.mp described
    exact absurd (List.mem_map.mpr ⟨type, inPlan, same⟩) builtin

/-- The members of the class in a planned module are identifiers if and only if the devices of the
room are spelled well, and only custom names and custom types are spelled otherwise.  References
name a member behind a dot, as it is declared, if and only if it is an identifier. -/
theorem HousePlan.members_identifiers_iff_spelled {plan : HousePlan} {options : RenderOptions}
    {rooms : List String} {artifacts : List Artifact}
    (planned : plan.artifacts options = .ok (rooms, artifacts)) :
    ∃ house, House.compile plan = .ok house ∧ ∀ room ∈ house.rooms, ∃ groups,
      RoomGroups.ofRoom room = .ok groups ∧ room.moduleArtifact groups options ∈ artifacts ∧
      (∀ decl, .classDecl decl ∈ (room.toModule groups options).items →
        ((∀ name ∈ decl.memberNames, isIdentifier name = true) ↔
          ∀ device ∈ room.memberDevices, device.plan.Spelled device.entry.displayName) ∧
        ∀ name ∈ decl.memberNames,
          ((room.own name).text = room.className ++ "." ++ name ↔ isIdentifier name = true)) ∧
      ∀ device ∈ room.memberDevices, device.plan.customName = none →
        device.type ∉ plan.customTypes.map (·.id) →
        device.plan.Spelled device.entry.displayName := by
  obtain ⟨house, compiled, housePlanned⟩ := HousePlan.artifacts_eq_ok planned
  refine ⟨house, compiled, fun room member => ?_⟩
  obtain ⟨groups, assembled, modulePlanned⟩ := House.module_planned housePlanned member
  refine ⟨groups, assembled, modulePlanned, fun decl declared => ?_, fun device inClass => ?_⟩
  · obtain rfl : decl = room.classDecl groups := by
      simpa [Room.toModule] using declared
    refine ⟨?_, fun name _ => room.own_text_iff⟩
    rw [room.memberNames_identifiers_iff]
    exact forall₂_congr fun device _ => isIdentifier_shortName_iff
  · exact House.spelled_of_builtin compiled member (List.mem_filter.mp inClass).1

/-- Blanks and dots of a custom name do no harm, nor does a missing display name before a number. -/
theorem HousePlan.members_identifiers_with_blanks_and_number :
    let nameless : CustomType :=
      { id := "Melder", displayName := "", className := "hmip", capabilities := [.motion] }
    let devices : List DevicePlan :=
      [{ type := "HmIpTaster", index := 0, customName := some "Tür links.oben" },
        { type := "HmIpWippe", index := 0, customName := some ".1" },
        { type := "Melder", index := 2 },
        { type := "OwnSonosDevice", index := 0 }]
    let buero : RoomPlan := { shortName := "Buero", longName := "Büro", floor := 1, devices }
    let plan : HousePlan := { customTypes := [nameless], rooms := [buero] }
    ∃ house, House.compile plan = .ok house ∧ ∀ room ∈ house.rooms, ∃ groups,
      RoomGroups.ofRoom room = .ok groups ∧
      ∀ decl, .classDecl decl ∈ (room.toModule groups {}).items →
        ∀ name ∈ decl.memberNames, isIdentifier name = true := by
  intro nameless devices buero plan
  have runs : (plan.artifacts {} >>= fun planned => House.compile plan >>= fun house =>
      .ok (planned.1, house.rooms.all fun room => room.memberDevices.all fun device =>
        decide (device.plan.Spelled device.entry.displayName))) = .ok (["Buero"], true) := by
    decide +kernel
  obtain ⟨_, planned, later⟩ := bind_eq_ok.mp runs
  obtain ⟨house, compiled, checked⟩ := bind_eq_ok.mp later
  have spelled : ∀ room ∈ house.rooms, ∀ device ∈ room.memberDevices,
      device.plan.Spelled device.entry.displayName := by
    simpa using (Prod.mk.inj (Except.ok.inj checked)).2
  obtain ⟨_, same, members⟩ := HousePlan.members_identifiers_iff_spelled planned
  obtain rfl := Except.ok.inj (compiled.symm.trans same)
  refine ⟨house, compiled, fun room member => ?_⟩
  obtain ⟨groups, assembled, _, identifiers, _⟩ := members room member
  exact ⟨groups, assembled, fun decl declared =>
    (identifiers decl declared).1.mpr (spelled room member)⟩

/-- A hyphen in a custom name and a blank in the display name of a custom type stay in the names
that the class declares. -/
theorem HousePlan.hyphen_and_blank_declared :
    let ceiling : CustomType :=
      { id := "Deckenlicht", displayName := "Licht oben", className := "zigbee",
        capabilities := [.lamp] }
    let devices : List DevicePlan :=
      [{ type := "HmIpTaster", index := 0, customName := some "Tür-Sensor" },
        { type := "Deckenlicht", index := 0 }]
    let buero : RoomPlan := { shortName := "Buero", longName := "Büro", floor := 1, devices }
    let plan : HousePlan := { customTypes := [ceiling], rooms := [buero] }
    ∃ artifacts house room groups,
      plan.artifacts {} = .ok (["Buero"], artifacts) ∧
      House.compile plan = .ok house ∧ room ∈ house.rooms ∧ RoomGroups.ofRoom room = .ok groups ∧
      (room.classDecl groups).memberNames.filter (!isIdentifier ·) =
        ["idTür-Sensor", "idLicht oben", "Tür-Sensor", "Licht oben", "setIdTür-Sensor",
          "setIdLicht oben"] := by
  intro ceiling devices buero plan
  have runs : (plan.artifacts {} >>= fun planned => House.compile plan >>= fun house =>
      house.rooms.mapM fun room => RoomGroups.ofRoom room >>= fun groups =>
        .ok (planned.1, (room.classDecl groups).memberNames.filter (!isIdentifier ·))) =
      .ok [(["Buero"], ["idTür-Sensor", "idLicht oben", "Tür-Sensor", "Licht oben",
        "setIdTür-Sensor", "setIdLicht oben"])] := by
    decide +kernel
  exact HousePlan.exists_room_of_check runs

end Homeplan
