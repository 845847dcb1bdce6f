import Homeplan.HouseFile
import Homeplan.Proofs.Document.Reading

namespace Homeplan

/-! House plans survive being written as JSON and read again. -/

open Document Document.Reader

theorem Capability.ofName?_name (capability : Capability) :
    Capability.ofName? capability.name = some capability := by
  cases capability <;> decide

theorem CustomType.reads_capability (capability : Capability) :
    Reads CustomType.capability (.text capability.name) capability :=
  reads_choice capability.ofName?_name

theorem Extras.reads (extras : Extras) : Reads Extras.reader extras.toJson extras := by
  have fills : Fills fields [("no_shutter_on_sunrise", .bool extras.noShutterOnSunrise)] {}
      { noShutterOnSunrise := some extras.noShutterOnSunrise } :=
    fills_field rfl rfl rfl (reads_bool _)
  exact reads_record fills rfl rfl

theorem DevicePlan.reads (plan : DevicePlan) : Reads DevicePlan.reader plan.toJson plan := by
  -- One draft behind each member, in the order in which the members are written.
  let start : Draft := { type := some plan.type, index := some plan.index }
  let addressed : Draft := { start with address := plan.address.map some }
  let named : Draft := { addressed with customName := plan.customName.map some }
  let mounted : Draft := { named with windowId := plan.windowId.map some }
  let grouped : Draft := { mounted with includeInGroup := some plan.includeInGroup }
  let extended : Draft := { grouped with extra := plan.extra.map some }
  let complete : Draft := { extended with settings := plan.settings.map some }
  have type : Fills fields [("type", .text plan.type)] {} { type := some plan.type } :=
    fills_field rfl rfl rfl (reads_text _)
  have index : Fills fields [("index", .integer plan.index.toNat)] { type := some plan.type }
      start :=
    fills_field rfl rfl rfl (reads_unsigned _)
  have address : Fills fields (Json.ofOption "address" .text plan.address) start addressed :=
    fills_option (fun place => { start with address := place }) rfl rfl (fun _ => rfl) reads_text
      (by simp)
  have customName :
      Fills fields (Json.ofOption "custom_name" .text plan.customName) addressed named :=
    fills_option (fun place => { addressed with customName := place }) rfl rfl (fun _ => rfl)
      reads_text (by simp)
  have windowId : Fills fields
      (Json.ofOption "window_id" (fun window => .integer window.toNat) plan.windowId) named
      mounted :=
    fills_option (fun place => { named with windowId := place }) rfl rfl (fun _ => rfl)
      reads_unsigned (by simp)
  have includeInGroup :
      Fills fields [("include_in_group", .bool plan.includeInGroup)] mounted grouped :=
    fills_field rfl rfl rfl (reads_bool _)
  have extra : Fills fields (Json.ofOption "extra" Extras.toJson plan.extra) grouped extended :=
    fills_option (fun place => { grouped with extra := place }) rfl rfl (fun _ => rfl)
      Extras.reads (by simp [Extras.toJson])
  have settings :
      Fills fields (Json.ofOption "settings" Settings.toJson plan.settings) extended complete :=
    fills_option (fun place => { extended with settings := place }) rfl rfl (fun _ => rfl)
      reads_settings (by simp [Settings.toJson])
  have fills := ((((((type.append index).append address).append customName).append windowId).append
    includeInGroup).append extra).append settings
  have finished : complete.finish = plan := by
    simp [complete, extended, grouped, mounted, named, addressed, start, Draft.finish,
      getD_map_some]
  exact reads_record fills rfl finished

theorem RoomPlan.reads (plan : RoomPlan) : Reads RoomPlan.reader plan.toJson plan := by
  let called : Draft := { shortName := some plan.shortName, longName := some plan.longName }
  let placed : Draft := { called with floor := some plan.floor }
  let furnished : Draft := { placed with devices := some plan.devices }
  let complete : Draft := { furnished with settings := plan.settings.map some }
  have shortName : Fills fields [("short_name", .text plan.shortName)] {}
      { shortName := some plan.shortName } :=
    fills_field rfl rfl rfl (reads_text _)
  have longName : Fills fields [("long_name", .text plan.longName)]
      { shortName := some plan.shortName } called :=
    fills_field rfl rfl rfl (reads_text _)
  have floor : Fills fields [("floor", .integer plan.floor.toInt)] called placed :=
    fills_field rfl rfl rfl (reads_signed _)
  have devices : Fills fields [("devices", .array (plan.devices.map DevicePlan.toJson))] placed
      furnished :=
    fills_field rfl rfl rfl (reads_list fun device _ => device.reads)
  have settings :
      Fills fields (Json.ofOption "settings" Settings.toJson plan.settings) furnished complete :=
    fills_option (fun place => { furnished with settings := place }) rfl rfl (fun _ => rfl)
      reads_settings (by simp [Settings.toJson])
  have fills := (((shortName.append longName).append floor).append devices).append settings
  have finished : complete.finish = plan := by
    simp [complete, furnished, placed, called, Draft.finish, getD_map_some]
  exact reads_record fills rfl finished

theorem CustomType.reads (type : CustomType) : Reads CustomType.reader type.toJson type := by
  let named : Draft :=
    { id := some type.id, displayName := some type.displayName, className := some type.className }
  have id : Fills fields [("id", .text type.id)] {} { id := some type.id } :=
    fills_field rfl rfl rfl (reads_text _)
  have displayName : Fills fields [("display_name", .text type.displayName)] { id := some type.id }
      { id := some type.id, displayName := some type.displayName } :=
    fills_field rfl rfl rfl (reads_text _)
  have className : Fills fields [("class", .text type.className)]
      { id := some type.id, displayName := some type.displayName } named :=
    fills_field rfl rfl rfl (reads_text _)
  have capabilities : Fills fields
      [("capabilities", .array (type.capabilities.map fun capability => .text capability.name))]
      named { named with capabilities := some type.capabilities } :=
    fills_field rfl rfl rfl (reads_list fun capability _ => CustomType.reads_capability capability)
  have fills := ((id.append displayName).append className).append capabilities
  exact reads_record fills rfl rfl

theorem HousePlan.reads (plan : HousePlan) : Reads HousePlan.reader plan.toJson plan := by
  let typed : Draft := { customTypes := some plan.customTypes }
  let roomed : Draft := { typed with rooms := some plan.rooms }
  have customTypes : Fills fields
      [("device_types", .array (plan.customTypes.map CustomType.toJson))] {} typed :=
    fills_field rfl rfl rfl (reads_list fun type _ => type.reads)
  have rooms : Fills fields [("rooms", .array (plan.rooms.map RoomPlan.toJson))] typed roomed :=
    fills_field rfl rfl rfl (reads_list fun room _ => room.reads)
  let formOf (devices : List DevicePlan) : Json := .array (devices.map DevicePlan.toJson)
  have detached : Fills fields
      [("devices", .object (plan.detached.entries.map fun entry => (entry.1, formOf entry.2)))]
      roomed { roomed with detached := some plan.detached } :=
    fills_field rfl rfl rfl (reads_dictionary formOf plan.detached fun _ _ =>
      reads_list fun device _ => device.reads)
  exact reads_record ((customTypes.append rooms).append detached) rfl rfl

/-! ## Plans whose text is exact -/

namespace Json

theorem exact_unsigned (value : UInt32) : (Json.integer value.toNat).Exact := by
  have bound : value.toNat < 4294967296 := value.toNat_lt
  show -9223372036854775808 ≤ (value.toNat : Int) ∧ (value.toNat : Int) < 18446744073709551616
  omega

theorem exact_signed (value : Int32) : (Json.integer value.toInt).Exact := by
  have low := value.le_toInt
  have high := value.toInt_lt
  show -9223372036854775808 ≤ value.toInt ∧ value.toInt < 18446744073709551616
  omega

theorem forall_mem_ofOption {holds : Json → Prop} {name : String} {form : α → Json}
    {value : Option α} :
    (∀ member ∈ ofOption name form value, holds member.2) ↔
      ∀ present ∈ value, holds (form present) := by
  cases value <;> simp [ofOption]

end Json

open Json

theorem DevicePlan.exact_toJson {plan : DevicePlan}
    (exact : ∀ settings ∈ plan.settings, settings.toJson.Exact) : plan.toJson.Exact := by
  show ExactMembers _
  simp only [exactMembers_iff, List.forall_mem_append, forall_mem_ofOption, List.forall_mem_cons]
  refine ⟨⟨⟨⟨⟨⟨⟨trivial, exact_unsigned _, List.forall_mem_nil _⟩, ?_⟩, ?_⟩, ?_⟩, trivial,
    List.forall_mem_nil _⟩, ?_⟩, exact⟩
  · exact fun _ _ => trivial
  · exact fun _ _ => trivial
  · exact fun window _ => exact_unsigned window
  · exact fun extras _ => ⟨trivial, trivial⟩

theorem exact_devices {plans : List DevicePlan}
    (exact : ∀ plan ∈ plans, ∀ settings ∈ plan.settings, settings.toJson.Exact) :
    (Json.array (plans.map DevicePlan.toJson)).Exact := by
  show ExactItems _
  rw [exactItems_iff, List.forall_mem_map]
  exact fun plan member => DevicePlan.exact_toJson (exact plan member)

theorem RoomPlan.exact_toJson {plan : RoomPlan}
    (devices : ∀ device ∈ plan.devices, ∀ settings ∈ device.settings, settings.toJson.Exact)
    (own : ∀ settings ∈ plan.settings, settings.toJson.Exact) : plan.toJson.Exact := by
  show ExactMembers _
  simp only [exactMembers_iff, List.forall_mem_append, forall_mem_ofOption, List.forall_mem_cons]
  exact ⟨⟨trivial, trivial, exact_signed _, exact_devices devices, List.forall_mem_nil _⟩, own⟩

theorem CustomType.exact_toJson (type : CustomType) : type.toJson.Exact := by
  have capabilities :
      ExactItems (type.capabilities.map fun capability => .text capability.name) := by
    rw [exactItems_iff, List.forall_mem_map]
    exact fun _ _ => trivial
  exact ⟨trivial, trivial, trivial, capabilities, trivial⟩

namespace HousePlan

/-- Every device of the house, those listed inside rooms first. -/
def devicePlans (plan : HousePlan) : List DevicePlan :=
  plan.rooms.flatMap (·.devices) ++ plan.detached.values.flatten

/-- The settings of all rooms and devices of the house that have some. -/
def allSettings (plan : HousePlan) : List Settings :=
  plan.rooms.filterMap (·.settings) ++ plan.devicePlans.filterMap (·.settings)

theorem mem_allSettings_iff {plan : HousePlan} {settings : Settings} :
    settings ∈ plan.allSettings ↔ (∃ room ∈ plan.rooms, room.settings = some settings) ∨
      ∃ device ∈ plan.devicePlans, device.settings = some settings := by
  simp [allSettings]

theorem exact_toJson {plan : HousePlan}
    (exact : ∀ settings ∈ plan.allSettings, settings.toJson.Exact) : plan.toJson.Exact := by
  have ofRoom : ∀ room ∈ plan.rooms, ∀ settings ∈ room.settings, settings.toJson.Exact :=
    fun room member settings isOwn => exact settings (mem_allSettings_iff.mpr
      (Or.inl ⟨room, member, isOwn⟩))
  have ofDevice : ∀ device ∈ plan.devicePlans, ∀ settings ∈ device.settings,
      settings.toJson.Exact :=
    fun device member settings isOwn => exact settings (mem_allSettings_iff.mpr
      (Or.inr ⟨device, member, isOwn⟩))
  have types : ExactItems (plan.customTypes.map CustomType.toJson) := by
    rw [exactItems_iff, List.forall_mem_map]
    exact fun type _ => type.exact_toJson
  have rooms : ExactItems (plan.rooms.map RoomPlan.toJson) := by
    rw [exactItems_iff, List.forall_mem_map]
    intro room member
    refine RoomPlan.exact_toJson (fun device inRoom => ?_) (ofRoom room member)
    exact ofDevice device (List.mem_append_left _ (List.mem_flatMap.mpr ⟨room, member, inRoom⟩))
  have detached : ExactMembers (plan.detached.entries.map fun entry =>
      (entry.1, .array (entry.2.map DevicePlan.toJson))) := by
    rw [exactMembers_iff, List.forall_mem_map]
    intro entry member
    refine exact_devices fun device inEntry => ofDevice device (List.mem_append_right _ ?_)
    exact List.mem_flatten.mpr ⟨entry.2, List.mem_map_of_mem member, inEntry⟩
  exact ⟨types, rooms, detached, trivial⟩

/-- A plan that is written as compact JSON is read back as it was, if all numbers in its settings are
integers of 64 bits and its text does not nest too deep to be read. -/
theorem parse_compact {plan : HousePlan}
    (exact : ∀ settings ∈ plan.allSettings, settings.toJson.Exact)
    (shallow : plan.toJson.depth ≤ 127) (path : Path) :
    HousePlan.parse .json path plan.toJson.compact = .ok plan := by
  have read : JsonText.read reader plan.toJson.compact = .ok plan := by
    rw [JsonText.read, JsonText.ofString_compact (exact_toJson exact)]
    exact bind_eq_ok.mpr ⟨plan, plan.reads 127 shallow, rfl⟩
  rw [parse, read]
  rfl

/-- Texts with quotes, controls and characters of every width, integers at both ends of their
ranges, empty settings and default extras next to absent ones. -/
theorem parse_compact_extremes :
    let nested : Settings := .ofMembers
      [("grenzen", .array [.integer (-9223372036854775808), .integer 18446744073709551615, .null,
          .bool false]),
        ("\u0000\t\"\\/", .object [("ü", .text "\n\x7f€😀")])]
    let devices : List DevicePlan :=
      [{ type := "Window", index := 4294967295, address := some "", customName := some "ä b.c",
          windowId := some 0, extra := some ⟨false⟩, settings := some (.ofMembers []) },
        { type := "", index := 0, includeInGroup := true, settings := some nested }]
    let types : List CustomType :=
      [{ id := "x", displayName := "", className := "?", capabilities := Capability.all }]
    let rooms : List RoomPlan :=
      [{ shortName := "Büro", longName := "\"", floor := -2147483648, devices,
          settings := some nested },
        { shortName := "Büro", longName := "", floor := 2147483647 }]
    let plan : HousePlan :=
      { customTypes := types, rooms,
        detached := .ofList [("b", devices), ("a", []), ("é", devices)] }
    HousePlan.parse .json ⟨"rooms.json"⟩ plan.toJson.compact = .ok plan := by
  intro nested devices types rooms plan
  exact parse_compact (by decide +kernel) (by decide +kernel) _

end HousePlan

end Homeplan
