import Homeplan.Artifact.Generation
import Homeplan.Proofs.Document.Alike
import Homeplan.Proofs.Document.Shuffled
import Homeplan.Proofs.HousePlan.RoundTrip
import Homeplan.Proofs.Text.ByteOrder

namespace Homeplan

/-! The order in which settings are written is irrelevant.

Two house documents that differ only in the order of members of settings, in rooms, in devices and at
any depth, describe the same house.  In what is read from them the members of every object stand in
the order of the bytes of their names.
-/

open Document Document.Reader

/-! ## Ordered at every depth -/

/-- The first value stands somewhere in the second one. -/
inductive Json.Within (inner : Json) : Json → Prop where
  | self : Within inner inner
  | item {item : Json} {items : List Json} :
      item ∈ items → Within inner item → Within inner (.array items)
  | member {member : String × Json} {members : List (String × Json)} :
      member ∈ members → Within inner member.2 → Within inner (.object members)

theorem Json.ordered_of_within {inner outer : Json} (within : Json.Within inner outer)
    (ordered : outer.Ordered) : inner.Ordered := by
  induction within with
  | self => exact ordered
  | item listed _ ih => exact ih (orderedItems_iff.mp ordered _ listed)
  | member listed _ ih => exact ih (orderedMembers_iff.mp ordered.2 _ listed)

/-- Each name comes before all names after it, byte by byte. -/
def NamesIncrease (members : List (String × Json)) : Prop :=
  members.Pairwise fun earlier later => Text.bytes earlier.1 < Text.bytes later.1

theorem Settings.namesIncrease (settings : Settings) {members : List (String × Json)}
    (within : Json.Within (.object members) settings.toJson) : NamesIncrease members := by
  have ordered : (Json.object members).Ordered :=
    Json.ordered_of_within within ⟨settings.sorted, settings.ordered⟩
  exact ordered.1.imp Text.bytes_lt_of_before

/-! ## Documents with shuffled settings -/

/-- A value of a device, by its field: settings may be shuffled, all else is the same. -/
def DevicePlan.ValueAlike (name : String) : Document → Document → Prop :=
  if name = "settings" then Shuffled else Eq

def DevicePlan.Alike : Document → Document → Prop :=
  RecordAlike DevicePlan.ValueAlike (DevicePlan.fields.map (·.name))

/-- A value of a room, by its field. -/
def RoomPlan.ValueAlike (name : String) : Document → Document → Prop :=
  if name = "settings" then Shuffled
  else if name = "devices" then ListAlike DevicePlan.Alike
  else Eq

def RoomPlan.Alike : Document → Document → Prop :=
  RecordAlike RoomPlan.ValueAlike (RoomPlan.fields.map (·.name))

/-- A value of a house, by its field. -/
def HousePlan.ValueAlike (name : String) : Document → Document → Prop :=
  if name = "rooms" then ListAlike RoomPlan.Alike
  else if name = "devices" then DictionaryAlike (ListAlike DevicePlan.Alike)
  else Eq

def HousePlan.Alike : Document → Document → Prop :=
  RecordAlike HousePlan.ValueAlike (HousePlan.fields.map (·.name))

/-- Two texts of houses that differ only in the order of the members of settings, if they are JSON. -/
structure HousePlan.SettingsShuffled (left right : String) : Prop where
  roots : HousePlan.Alike (JsonText.ofString left).root (JsonText.ofString right).root
  complete : (JsonText.ofString left).complete = (JsonText.ofString right).complete

/-! ## Reading -/

theorem agrees_settings : (optional Reader.settings).Agrees Shuffled :=
  Agrees.optional (fun _ _ shuffled => settings_shuffled shuffled) Shuffled.eq_null_iff

theorem DevicePlan.fieldsAgree : FieldsAgree DevicePlan.fields DevicePlan.ValueAlike where
  known := by
    simp only [fields, List.forall_mem_cons]
    exact ⟨fieldAgrees_eq _, fieldAgrees_eq _, fieldAgrees_eq _, fieldAgrees_eq _, fieldAgrees_eq _,
      fieldAgrees_eq _, fieldAgrees_eq _, agrees_settings.field .., List.forall_mem_nil _⟩
  foreign name unknown left right related := by
    have settings : name ≠ "settings" := by
      rintro rfl
      exact unknown (by decide)
    rwa [ValueAlike, if_neg settings] at related

theorem DevicePlan.agrees_reader : DevicePlan.reader.Agrees DevicePlan.Alike :=
  (agrees_record fieldsAgree _ _).result Draft.finish

theorem RoomPlan.fieldsAgree : FieldsAgree RoomPlan.fields RoomPlan.ValueAlike where
  known := by
    simp only [fields, List.forall_mem_cons]
    exact ⟨fieldAgrees_eq _, fieldAgrees_eq _, fieldAgrees_eq _,
      DevicePlan.agrees_reader.list.field .., agrees_settings.field .., List.forall_mem_nil _⟩
  foreign name unknown left right related := by
    have settings : name ≠ "settings" := by
      rintro rfl
      exact unknown (by decide)
    have devices : name ≠ "devices" := by
      rintro rfl
      exact unknown (by decide)
    rwa [ValueAlike, if_neg settings, if_neg devices] at related

theorem RoomPlan.agrees_reader : RoomPlan.reader.Agrees RoomPlan.Alike :=
  (agrees_record fieldsAgree _ _).result Draft.finish

theorem HousePlan.fieldsAgree : FieldsAgree HousePlan.fields HousePlan.ValueAlike where
  known := by
    simp only [fields, List.forall_mem_cons]
    exact ⟨fieldAgrees_eq _, RoomPlan.agrees_reader.list.field ..,
      DevicePlan.agrees_reader.list.dictionary.field .., List.forall_mem_nil _⟩
  foreign name unknown left right related := by
    have rooms : name ≠ "rooms" := by
      rintro rfl
      exact unknown (by decide)
    have devices : name ≠ "devices" := by
      rintro rfl
      exact unknown (by decide)
    rwa [ValueAlike, if_neg rooms, if_neg devices] at related

theorem HousePlan.agrees_reader : HousePlan.reader.Agrees HousePlan.Alike :=
  (agrees_record fieldsAgree _ _).result Draft.finish

namespace HousePlan

theorem parse_eq_of_settingsShuffled {left right : String} (shuffled : SettingsShuffled left right)
    (path : Path) : parse .json path left = parse .json path right := by
  have read : JsonText.read reader left = JsonText.read reader right := by
    simp only [JsonText.read, agrees_reader shuffled.roots, shuffled.complete]
  simp only [parse, read]

/-- Two JSON texts of houses that differ only in the order of the members of settings are accepted
or refused together.  They describe the same house with the same artifacts, and the members of all
objects in its settings stand in the order of the bytes of their names. -/
theorem settings_order_is_irrelevant {left right : String} (shuffled : SettingsShuffled left right)
    (path : Path) (options : RenderOptions) :
    parse .json path left = parse .json path right ∧
      (∀ plan, parse .json path left = .ok plan → ∀ settings ∈ plan.allSettings, ∀ members,
        Json.Within (.object members) settings.toJson → NamesIncrease members) ∧
      (parse .json path left).map (·.artifacts options) =
        (parse .json path right).map (·.artifacts options) := by
  have same := parse_eq_of_settingsShuffled shuffled path
  refine ⟨same, ?_, congrArg (Except.map (·.artifacts options)) same⟩
  intro plan _ settings _ members within
  exact settings.namesIncrease within

section Sample

def sampleDevice (settings : Json) : Json :=
  .object [("type", .text "HmIpTaster"), ("index", .integer 0), ("settings", settings)]

def sampleRoom (settings device : Json) : Json :=
  .object [("short_name", .text "Buero"), ("long_name", .text "Büro"), ("floor", .integer 1),
    ("settings", settings), ("devices", .array [device])]

/-- A house of one room with one device in it, each with settings. -/
def sample (room device : Json) : Json :=
  .object [("rooms", .array [sampleRoom room (sampleDevice device)])]

theorem settingsShuffled_sample {room room' device device' : Json}
    (exact : (sample room device).Exact) (exact' : (sample room' device').Exact)
    (rooms : Shuffled room.document room'.document)
    (devices : Shuffled device.document device'.document) :
    SettingsShuffled (sample room device).compact (sample room' device').compact := by
  have inDevice :
      DevicePlan.Alike (sampleDevice device).document (sampleDevice device').document :=
    .mapping (.cons (.same _) (.cons (.same _) (.cons (.named "settings" devices) .nil)))
  have listed : RoomPlan.ValueAlike "devices"
      (.sequence [(sampleDevice device).document]) (.sequence [(sampleDevice device').document]) :=
    ListAlike.sequence (.cons inDevice .nil)
  have inRoom : RoomPlan.Alike (sampleRoom room (sampleDevice device)).document
      (sampleRoom room' (sampleDevice device')).document :=
    .mapping (.cons (.same _) (.cons (.same _) (.cons (.same _) (.cons (.named "settings" rooms)
      (.cons (.named "devices" listed) .nil)))))
  have inHouse : HousePlan.Alike (sample room device).document (sample room' device').document :=
    .mapping (.cons (.named "rooms" (ListAlike.sequence (.cons inRoom .nil))) .nil)
  constructor
  · rw [JsonText.ofString_compact exact, JsonText.ofString_compact exact']
    exact inHouse
  · rw [JsonText.ofString_compact exact, JsonText.ofString_compact exact']

/-- Two orders of members in a room, in an object inside of its settings, in an object in a list
inside of that, and in a device. -/
theorem settings_order_is_irrelevant_inside_lists :
    let left := sample
      (.object [("b", .object [("y", .integer 1),
          ("x", .array [.object [("q", .null), ("p", .integer 2)]])]), ("a", .bool true)])
      (.object [("ß", .integer 1), ("Z", .integer 2)])
    let right := sample
      (.object [("a", .bool true), ("b", .object
          [("x", .array [.object [("p", .integer 2), ("q", .null)]]), ("y", .integer 1)])])
      (.object [("Z", .integer 2), ("ß", .integer 1)])
    let path : Path := ⟨"rooms.json"⟩
    left.compact ≠ right.compact ∧ (parse .json path left.compact).isOk = true ∧
      parse .json path left.compact = parse .json path right.compact ∧
      (∀ plan, parse .json path left.compact = .ok plan → ∀ settings ∈ plan.allSettings,
        ∀ members, Json.Within (.object members) settings.toJson → NamesIncrease members) ∧
      (parse .json path left.compact).map (·.artifacts {}) =
        (parse .json path right.compact).map (·.artifacts {}) := by
  intro left right path
  have exact : left.Exact := by decide +kernel
  have accepted : (parse .json path left.compact).isOk = true := by
    simp only [parse, JsonText.read, JsonText.ofString_compact exact]
    decide +kernel
  refine ⟨by decide +kernel, accepted, settings_order_is_irrelevant ?_ path {}⟩
  refine settingsShuffled_sample exact (by decide +kernel) ?_ ?_
  · have innermost : Shuffled
        (.mapping [(.text "q", .null), (.text "p", .integer 2)])
        (.mapping [(.text "p", .integer 2), (.text "q", .null)]) :=
      .members (by simp) (.swap ..)
    have inner : Shuffled
        (.mapping [(.text "y", .integer 1),
          (.text "x", .sequence [.mapping [(.text "q", .null), (.text "p", .integer 2)]])])
        (.mapping [(.text "x", .sequence [.mapping [(.text "p", .integer 2), (.text "q", .null)]]),
          (.text "y", .integer 1)]) :=
      .trans (.value [_] (.text "x") [] (.item [] [] innermost)) (.members (by simp) (.swap ..))
    exact .trans (.value [] (.text "b") [_] inner) (.members (by simp) (.swap ..))
  · show Shuffled (.mapping [(.text "ß", .integer 1), (.text "Z", .integer 2)])
      (.mapping [(.text "Z", .integer 2), (.text "ß", .integer 1)])
    exact .members (by simp) (.swap ..)

end Sample

end HousePlan

end Homeplan
