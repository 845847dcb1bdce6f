import Homeplan.HouseFile
import Homeplan.Proofs.Artifact.Planning
import Homeplan.Proofs.Document.Fields
import Homeplan.Proofs.Document.Reading

namespace Homeplan

/-! The devices that a house document lists, and those of the house that it is compiled to.

A document lists devices inside its rooms and detached from them.  They are taken from the document
as it is written, before a repeated key loses anything: `HousePlan.listed` has all of them,
`HousePlan.replaced` those in detached lists whose key is written again, and `HousePlan.standing`
the others.
-/

open Document Document.Reader

/-! ## Listings -/

/-- Devices as they are written, each with the key of the room that it is listed for. -/
abbrev Listing := List (String × Document)

namespace Listing

def under (key : String) (devices : List Document) : Listing := devices.map (key, ·)

def ofRoom (listing : Listing) (key : String) : List Document :=
  (listing.filter (·.1 = key)).map (·.2)

@[simp] theorem ofRoom_append (first second : Listing) (key : String) :
    ofRoom (first ++ second) key = ofRoom first key ++ ofRoom second key := by
  simp [ofRoom]

@[simp] theorem ofRoom_under (own key : String) (devices : List Document) :
    ofRoom (under own devices) key = if own = key then devices else [] := by
  by_cases same : own = key <;> simp [ofRoom, under, List.filter_map, Function.comp_def, same]

theorem ofRoom_eq_nil {listing : Listing} {key : String}
    (absent : ∀ entry ∈ listing, entry.1 ≠ key) : ofRoom listing key = [] := by
  rw [ofRoom, List.map_eq_nil_iff, List.filter_eq_nil_iff]
  simpa using absent

/-- If every entry is listed for one of some rooms, then they have all entries between them. -/
theorem length_flatMap_ofRoom {listing : Listing} {keys : List String} (distinct : keys.Nodup)
    (covered : ∀ entry ∈ listing, entry.1 ∈ keys) :
    (keys.flatMap (ofRoom listing)).length = listing.length := by
  -- The other keys have between them the entries that remain when one key is filtered out.
  induction keys generalizing listing with
  | nil =>
      have empty : listing = [] := List.eq_nil_iff_forall_not_mem.mpr fun entry member =>
        List.not_mem_nil (covered entry member)
      rw [empty]
      rfl
  | cons key others ih =>
      obtain ⟨first, distinctOthers⟩ := List.nodup_cons.mp distinct
      have restCovered : ∀ entry ∈ listing.filter (¬ ·.1 = key), entry.1 ∈ others := by
        intro entry member
        obtain ⟨inListing, different⟩ := List.mem_filter.mp member
        exact (List.mem_cons.mp (covered entry inListing)).resolve_left (by simpa using different)
      have sameForOthers : ∀ other ∈ others,
          ofRoom listing other = ofRoom (listing.filter (¬ ·.1 = key)) other := by
        intro other member
        have different : other ≠ key := fun same => first (same ▸ member)
        rw [ofRoom, ofRoom, List.filter_filter]
        refine congrArg _ (List.filter_congr fun entry _ => ?_)
        by_cases same : entry.1 = other <;> simp [same, different]
      have split := List.length_eq_length_filter_add (l := listing) (·.1 = key)
      simp only [← decide_not] at split
      rw [List.flatMap_cons, List.length_append, List.flatMap_congr sameForOthers,
        ih distinctOthers restCovered, split, ofRoom, List.length_map]

end Listing

/-! ## Devices as a document lists them -/

namespace RoomPlan

def fieldNames : List String := ["short_name", "long_name", "floor", "devices", "settings"]

def keyIn (document : Document) : String :=
  (document.field? fieldNames "short_name").elim "" Document.asText

def devicesIn (document : Document) : List Document :=
  (document.field? fieldNames "devices").elim [] Document.items

end RoomPlan

namespace HousePlan

def fieldNames : List String := ["device_types", "rooms", "devices"]

def roomsIn (document : Document) : List Document :=
  (document.field? fieldNames "rooms").elim [] Document.items

/-- The keys and lists of detached devices, as often as they are written. -/
def detachedIn (document : Document) : List (Document × Document) :=
  (document.field? fieldNames "devices").elim [] Document.members

def listedInside (rooms : List Document) : Listing :=
  rooms.flatMap fun room => Listing.under (RoomPlan.keyIn room) (RoomPlan.devicesIn room)

def listedDetached (lists : List (Document × Document)) : Listing :=
  lists.flatMap fun list => Listing.under list.1.asText list.2.items

def isReplaced (list : Document × Document) (later : List (Document × Document)) : Bool :=
  (lastNamed list.1.asText later).isSome

/-- The lists whose key is written again later. -/
def replacedLists : List (Document × Document) → List (Document × Document)
  | [] => []
  | list :: later =>
      if isReplaced list later then list :: replacedLists later else replacedLists later

/-- The last list of every key. -/
def lastLists : List (Document × Document) → List (Document × Document)
  | [] => []
  | list :: later => if isReplaced list later then lastLists later else list :: lastLists later

def listed (document : Document) : Listing :=
  listedInside (roomsIn document) ++ listedDetached (detachedIn document)

def replaced (document : Document) : Listing :=
  listedDetached (replacedLists (detachedIn document))

def standing (document : Document) : Listing :=
  listedInside (roomsIn document) ++ listedDetached (lastLists (detachedIn document))

/-! ### What is listed for which room -/

theorem key_of_mem_listedInside {rooms : List Document} {entry : String × Document}
    (member : entry ∈ listedInside rooms) : entry.1 ∈ rooms.map RoomPlan.keyIn := by
  obtain ⟨room, inRooms, inRoom⟩ := List.mem_flatMap.mp member
  obtain ⟨_, _, rfl⟩ := List.mem_map.mp inRoom
  exact List.mem_map_of_mem inRooms

theorem listedDetached_cons (list : Document × Document) (later : List (Document × Document)) :
    listedDetached (list :: later) =
      Listing.under list.1.asText list.2.items ++ listedDetached later := List.flatMap_cons ..

theorem key_of_mem_listedDetached {lists : List (Document × Document)} {entry : String × Document}
    (member : entry ∈ listedDetached lists) : ∃ list ∈ lists, list.1.asText = entry.1 := by
  obtain ⟨list, inLists, inList⟩ := List.mem_flatMap.mp member
  obtain ⟨_, _, rfl⟩ := List.mem_map.mp inList
  exact ⟨list, inLists, rfl⟩

theorem ofRoom_listedInside {rooms : List Document} (distinct : (rooms.map RoomPlan.keyIn).Nodup)
    {room : Document} (member : room ∈ rooms) :
    Listing.ofRoom (listedInside rooms) (RoomPlan.keyIn room) = RoomPlan.devicesIn room := by
  induction rooms with
  | nil => contradiction
  | cons first others ih =>
      obtain ⟨apart, distinctOthers⟩ := List.nodup_cons.mp distinct
      rw [listedInside, List.flatMap_cons, Listing.ofRoom_append, Listing.ofRoom_under]
      rcases List.mem_cons.mp member with same | inOthers
      · subst same
        have inNoOther : Listing.ofRoom (listedInside others) (RoomPlan.keyIn room) = [] :=
          Listing.ofRoom_eq_nil fun entry inside same =>
            apart (same ▸ key_of_mem_listedInside inside)
        rw [if_pos rfl]
        exact (congrArg _ inNoOther).trans (List.append_nil _)
      · have different : RoomPlan.keyIn first ≠ RoomPlan.keyIn room := fun same =>
          apart (same ▸ List.mem_map_of_mem inOthers)
        rw [if_neg different]
        exact ih distinctOthers inOthers

theorem lastLists_subset (lists : List (Document × Document)) : lastLists lists ⊆ lists := by
  induction lists with
  | nil => exact List.Subset.refl _
  | cons list later ih =>
      rw [lastLists]
      split
      · exact List.subset_cons_of_subset _ ih
      · exact List.cons_subset_cons _ ih

/-- Of the detached lists under one key, the last one stands. -/
theorem ofRoom_lastLists (lists : List (Document × Document)) (key : String) :
    Listing.ofRoom (listedDetached (lastLists lists)) key =
      (lastNamed key lists).elim [] Document.items := by
  induction lists with
  | nil => rfl
  | cons list later ih =>
      rw [lastNamed_cons, lastLists]
      split
      · -- The list is passed over, but then a later one has its key.
        rename_i again
        obtain ⟨written, found⟩ := Option.isSome_iff_exists.mp again
        rw [ih]
        by_cases same : list.1.asText = key
        · rw [← same, found]
          rfl
        · rw [if_neg same, Option.or_none]
      · rename_i notAgain
        rw [listedDetached_cons, Listing.ofRoom_append, Listing.ofRoom_under]
        by_cases same : list.1.asText = key
        · have found : lastNamed key later = none :=
            Option.not_isSome_iff_eq_none.mp (same ▸ notAgain)
          rw [if_pos same, if_pos same, ih, found, Option.none_or]
          exact List.append_nil _
        · rw [if_neg same, if_neg same, Option.or_none]
          exact ih

/-- Every device is listed in a list that stands or in one that is replaced. -/
theorem listedDetached_split (lists : List (Document × Document)) :
    (listedDetached lists).Perm
      (listedDetached (lastLists lists) ++ listedDetached (replacedLists lists)) := by
  induction lists with
  | nil => exact .refl _
  | cons list later ih =>
      rw [lastLists, replacedLists, listedDetached_cons]
      have moved := List.Perm.append_left (Listing.under list.1.asText list.2.items) ih
      split
      · rw [listedDetached_cons]
        exact moved.trans (List.perm_append_comm_assoc ..)
      · rwa [listedDetached_cons, List.append_assoc]

theorem listed_split (document : Document) :
    (listed document).Perm (standing document ++ replaced document) := by
  rw [standing, List.append_assoc]
  exact List.Perm.append_left _ (listedDetached_split _)

/-- Where no list under a repeated key has a device, every device stands. -/
theorem listedDetached_of_none_replaced {lists : List (Document × Document)}
    (none : listedDetached (replacedLists lists) = []) :
    listedDetached (lastLists lists) = listedDetached lists := by
  induction lists with
  | nil => rfl
  | cons list later ih =>
      rw [replacedLists] at none
      rw [lastLists]
      split at none
      · rename_i again
        rw [listedDetached_cons, List.append_eq_nil_iff] at none
        rw [if_pos again, ih none.2, listedDetached_cons, none.1, List.nil_append]
      · rename_i notAgain
        rw [if_neg notAgain, listedDetached_cons, listedDetached_cons, ih none]

theorem standing_of_none_replaced {document : Document} (none : replaced document = []) :
    standing document = listed document :=
  congrArg _ (listedDetached_of_none_replaced none)

end HousePlan

/-! ## Reading a listing -/

def DevicePlan.IsRead (written : Document) (plan : DevicePlan) : Prop :=
  ∃ levels, DevicePlan.reader (jsonRules levels) written = .ok plan

/-- A room with the name and the devices that a document gives it. -/
structure RoomPlan.IsRead (document : Document) (plan : RoomPlan) : Prop where
  shortName : plan.shortName = RoomPlan.keyIn document
  devices : List.Forall₂ DevicePlan.IsRead (RoomPlan.devicesIn document) plan.devices

/-- A house with the rooms of a document, and under each key the last list detached there. -/
structure HousePlan.IsRead (document : Document) (plan : HousePlan) : Prop where
  rooms : List.Forall₂ RoomPlan.IsRead (HousePlan.roomsIn document) plan.rooms
  detached : ∀ key, List.Forall₂ DevicePlan.IsRead
    ((lastNamed key (HousePlan.detachedIn document)).elim [] Document.items)
    ((plan.detached.get? key).getD [])
  keys : ∀ list ∈ HousePlan.detachedIn document, list.1.asText ∈ plan.detached.keys

theorem exists_jsonRules {levels : Nat} {rules : Rules}
    (opened : (jsonRules levels).inner = .ok rules) : ∃ fewer, rules = jsonRules fewer := by
  cases levels with
  | zero => cases opened
  | succ fewer => exact ⟨fewer, (Except.ok.inj opened).symm⟩

/-- The items of a list whose place may be missing, where it has none. -/
theorem itemsRead_of_rel {read : Reader α} {levels : Nat} {found : Option Document}
    {values : Option (List α)}
    (kept : Option.Rel (fun written values => list read (jsonRules levels) written = .ok values)
      found values) :
    ∃ fewer, List.Forall₂ (fun item value => read (jsonRules fewer) item = .ok value)
      (found.elim [] Document.items) (values.getD []) := by
  cases kept with
  | none => exact ⟨levels, .nil⟩
  | some accepted =>
      obtain ⟨rules, opened, itemsRead⟩ := list_eq_ok accepted
      obtain ⟨fewer, rfl⟩ := exists_jsonRules opened
      exact ⟨fewer, itemsRead⟩

theorem isRead_of_rel {levels : Nat} {found : Option Document} {plans : Option (List DevicePlan)}
    (kept : Option.Rel
      (fun written plans => list DevicePlan.reader (jsonRules levels) written = .ok plans)
      found plans) :
    List.Forall₂ DevicePlan.IsRead (found.elim [] Document.items) (plans.getD []) := by
  obtain ⟨fewer, itemsRead⟩ := itemsRead_of_rel kept
  exact itemsRead.imp fun _ _ planRead => ⟨fewer, planRead⟩

theorem exists_of_rel {related : α → β → Prop} {found : Option α} {value : Option β}
    (kept : Option.Rel related found value) {item : α} (present : found = some item) :
    ∃ result, value = some result := by
  cases kept with
  | none => cases present
  | some _ => exact ⟨_, rfl⟩

theorem getD_of_rel {rules : Rules} {found : Option Document} {value : Option String}
    (kept : Option.Rel (fun written value => Reader.text rules written = .ok value) found value) :
    value.getD "" = found.elim "" Document.asText := by
  cases kept with
  | none => rfl
  | @some written value read =>
      cases written <;> cases read
      rfl

theorem RoomPlan.isRead_of_reader {levels : Nat} {document : Document} {plan : RoomPlan}
    (read : RoomPlan.reader (jsonRules levels) document = .ok plan) : plan.IsRead document := by
  obtain ⟨draft, accepted, finished⟩ := bind_eq_ok.mp read
  obtain rfl := Except.ok.inj finished
  have distinct : (RoomPlan.fields.map (·.name)).Nodup := by decide
  constructor
  · obtain ⟨_, _, kept⟩ := record_kept RoomPlan.Draft.shortName distinct (List.mem_cons_self ..)
      (fun _ _ => rfl) (by simp [RoomPlan.fields, leaves_field]) rfl accepted
    exact getD_of_rel kept
  · have listed : field "devices" false RoomPlan.Draft.devices
        (fun draft value => { draft with devices := some value }) (list DevicePlan.reader) ∈
          RoomPlan.fields := by
      simp [RoomPlan.fields]
    obtain ⟨inner, opened, kept⟩ := record_kept _ distinct listed (fun _ _ => rfl)
      (by simp [RoomPlan.fields, leaves_field]) rfl accepted
    obtain ⟨_, rfl⟩ := exists_jsonRules opened
    exact isRead_of_rel kept

theorem lookups_of_rel {levels : Nat} {found : Option Document}
    {map : Option (SortedMap String (List DevicePlan))}
    (kept : Option.Rel (fun written map =>
      dictionary (list DevicePlan.reader) (jsonRules levels) written = .ok map) found map) :
    ∃ fewer, ∀ key, Option.Rel
      (fun written plans => list DevicePlan.reader (jsonRules fewer) written = .ok plans)
      (lastNamed key (found.elim [] Document.members)) ((map.getD {}).get? key) := by
  cases kept with
  | none => exact ⟨levels, fun _ => .none⟩
  | some read =>
      obtain ⟨rules, opened, lookups⟩ := dictionary_eq_ok read
      obtain ⟨fewer, rfl⟩ := exists_jsonRules opened
      exact ⟨fewer, lookups⟩

theorem HousePlan.isRead_of_reader {levels : Nat} {document : Document} {plan : HousePlan}
    (read : HousePlan.reader (jsonRules levels) document = .ok plan) : plan.IsRead document := by
  obtain ⟨draft, accepted, finished⟩ := bind_eq_ok.mp read
  obtain rfl := Except.ok.inj finished
  have distinct : (HousePlan.fields.map (·.name)).Nodup := by decide
  have roomsField : field "rooms" false HousePlan.Draft.rooms
      (fun draft value => { draft with rooms := some value }) (list RoomPlan.reader) ∈
        HousePlan.fields := by
    simp [HousePlan.fields]
  have detachedField : field "devices" false HousePlan.Draft.detached
      (fun draft value => { draft with detached := some value })
      (dictionary (list DevicePlan.reader)) ∈ HousePlan.fields := by
    simp [HousePlan.fields]
  obtain ⟨_, opened, roomsKept⟩ := record_kept _ distinct roomsField (fun _ _ => rfl)
    (by simp [HousePlan.fields, leaves_field]) rfl accepted
  obtain ⟨_, rfl⟩ := exists_jsonRules opened
  obtain ⟨_, detachedOpened, detachedKept⟩ := record_kept _ distinct detachedField (fun _ _ => rfl)
    (by simp [HousePlan.fields, leaves_field]) rfl accepted
  obtain ⟨_, rfl⟩ := exists_jsonRules detachedOpened
  obtain ⟨_, lookups⟩ := lookups_of_rel detachedKept
  obtain ⟨_, roomsRead⟩ := itemsRead_of_rel roomsKept
  refine ⟨roomsRead.imp fun _ _ roomRead => RoomPlan.isRead_of_reader roomRead,
    fun key => isRead_of_rel (lookups key), ?_⟩
  intro list member
  obtain ⟨last, found⟩ := exists_lastNamed member
  obtain ⟨plans, looked⟩ := exists_of_rel (lookups list.1.asText) found
  exact (SortedMap.mem_keys_iff _).mpr ⟨plans, looked⟩

theorem HousePlan.isRead_of_parse {path : Path} {text : String} {plan : HousePlan}
    (parsed : HousePlan.parse .json path text = .ok plan) :
    plan.IsRead (JsonText.ofString text).root := by
  have read : JsonText.read HousePlan.reader text = .ok plan := mapError_eq_ok_iff.mp parsed
  obtain ⟨value, rootRead, complete⟩ := bind_eq_ok.mp read
  split at complete
  · obtain rfl := Except.ok.inj complete
    have outermost : HousePlan.reader (jsonRules 127) (JsonText.ofString text).root = .ok value :=
      rootRead
    exact HousePlan.isRead_of_reader outermost
  · cases complete

/-! ## From the document to the house -/

theorem length_flatMap_of_forall₂ {related : α → β → γ → Prop} {items : List α}
    {first : α → List β} {second : α → List γ}
    (each : ∀ item ∈ items, List.Forall₂ (related item) (first item) (second item)) :
    (items.flatMap second).length = (items.flatMap first).length := by
  induction items with
  | nil => rfl
  | cons item rest ih =>
      rw [List.forall_mem_cons] at each
      simp only [List.flatMap_cons, List.length_append, each.1.length_eq, ih each.2]

/-- The device was compiled for its room from what is written. -/
def Device.IsFrom (key : String) (written : Document) (device : Device) : Prop :=
  device.room = key ∧ device.plan.IsRead written

/-- The devices of a house are those of a listing, one by one: every room has what is listed for it,
in order, and nothing is listed for any other room. -/
structure House.Holds (house : House) (listing : Listing) : Prop where
  each : ∀ room ∈ house.rooms,
    List.Forall₂ (Device.IsFrom room.shortName) (Listing.ofRoom listing room.shortName) room.devices
  count : (house.rooms.flatMap (·.devices)).length = listing.length

section Compiled

variable {document : Document} {plan : HousePlan} {house : House} (isRead : plan.IsRead document)
  (compiled : House.compile plan = .ok house)
include isRead compiled

theorem HousePlan.IsRead.keys_eq :
    (HousePlan.roomsIn document).map RoomPlan.keyIn = house.rooms.map (·.shortName) := by
  rw [(House.realizes_of_compile compiled).roomNames, ← List.forall₂_eq_eq_eq,
    List.forall₂_map_left_iff, List.forall₂_map_right_iff]
  exact isRead.rooms.imp fun _ _ room => room.shortName.symm

/-- A room of the house, with the devices that its document and the standing lists have for it. -/
theorem HousePlan.IsRead.devices {room : Room} (member : room ∈ house.rooms) :
    List.Forall₂ (Device.IsFrom room.shortName)
      (Listing.ofRoom (HousePlan.standing document) room.shortName) room.devices := by
  have realizes := House.realizes_of_compile compiled
  obtain ⟨roomPlan, inPlan, sameName, made⟩ := exists_related_of_mem realizes.rooms member
  obtain ⟨written, inDocument, roomRead⟩ := exists_related_of_mem isRead.rooms inPlan
  have named : room.shortName = RoomPlan.keyIn written := sameName.trans roomRead.shortName
  have distinct : ((HousePlan.roomsIn document).map RoomPlan.keyIn).Nodup := by
    rw [isRead.keys_eq compiled]
    exact House.roomNames_nodup compiled
  have listedFor : Listing.ofRoom (HousePlan.standing document) room.shortName =
      RoomPlan.devicesIn written ++
        (lastNamed roomPlan.shortName (HousePlan.detachedIn document)).elim [] Document.items := by
    rw [HousePlan.standing, Listing.ofRoom_append, HousePlan.ofRoom_lastLists, named,
      HousePlan.ofRoom_listedInside distinct inDocument, roomRead.shortName]
  have plansRead := List.rel_append roomRead.devices (isRead.detached roomPlan.shortName)
  rw [listedFor, sameName]
  refine forall₂_trans (fun entry devicePlan device entryRead deviceMade => ?_) plansRead made
  obtain ⟨_, rfl, inRoom⟩ := deviceMade
  exact ⟨inRoom, entryRead⟩

theorem HousePlan.IsRead.covered :
    ∀ entry ∈ HousePlan.standing document, entry.1 ∈ house.rooms.map (·.shortName) := by
  intro entry member
  rcases List.mem_append.mp member with inside | detached
  · rw [← isRead.keys_eq compiled]
    exact HousePlan.key_of_mem_listedInside inside
  · obtain ⟨list, standing, named⟩ := HousePlan.key_of_mem_listedDetached detached
    have written := isRead.keys list (HousePlan.lastLists_subset _ standing)
    obtain ⟨_, _, declared, _⟩ := House.compile_eq_ok_iff.mp compiled
    obtain ⟨roomPlan, inPlan, same⟩ := declared _ written
    rw [(House.realizes_of_compile compiled).roomNames, ← named, ← same]
    exact List.mem_map_of_mem inPlan

theorem HousePlan.IsRead.holds : house.Holds (HousePlan.standing document) := by
  have each := fun room (member : room ∈ house.rooms) => isRead.devices compiled member
  refine ⟨each, ?_⟩
  rw [← Listing.length_flatMap_ofRoom (House.roomNames_nodup compiled) (isRead.covered compiled),
    List.flatMap_map]
  exact length_flatMap_of_forall₂ each

end Compiled

namespace HousePlan

/-- The house that a JSON document describes has every device that the document lists, in the room
that it is listed for, except those in detached lists whose key is written again.  So it has all of
them if and only if no such list has a device. -/
theorem listed_devices_held_iff {path : Path} {text : String} {plan : HousePlan} {house : House}
    (parsed : parse .json path text = .ok plan) (compiled : House.compile plan = .ok house) :
    let document := (JsonText.ofString text).root
    house.Holds (standing document) ∧
    (listed document).Perm (standing document ++ replaced document) ∧
    (house.Holds (listed document) ↔ replaced document = []) := by
  intro document
  have holds := (isRead_of_parse parsed).holds compiled
  refine ⟨holds, listed_split document, fun all => ?_, fun none => ?_⟩
  · -- Both listings have as many devices as the house, which leaves none for the replaced lists.
    have written := (listed_split document).length_eq
    have counted : (listed document).length = (standing document).length :=
      all.count.symm.trans holds.count
    rw [List.length_append] at written
    exact List.eq_nil_of_length_eq_zero (by omega)
  · rw [← standing_of_none_replaced none]
    exact holds

/-- A device inside a room, and one behind a repeated key whose first list is empty. -/
theorem listed_devices_held_after_empty_list :
    let text := "\x7b\"rooms\":[[\"Buero\",\"Büro\",1,[[\"HmIpGriff\",0]]]]," ++
      "\"devices\":\x7b\"Buero\":[],\"Buero\":[[\"HmIpTaster\",0]]\x7d\x7d"
    ∃ plan house, parse .json ⟨"rooms.json"⟩ text = .ok plan ∧ House.compile plan = .ok house ∧
      (listed (JsonText.ofString text).root).length = 2 ∧
      house.Holds (listed (JsonText.ofString text).root) := by
  intro text
  let buero : RoomPlan :=
    { shortName := "Buero", longName := "Büro", floor := 1,
      devices := [{ type := "HmIpGriff", index := 0 }] }
  let plan : HousePlan :=
    { rooms := [buero], detached := .ofList [("Buero", [{ type := "HmIpTaster", index := 0 }])] }
  -- The text is taken apart only once.
  have reading : parse .json ⟨"rooms.json"⟩ text = .ok plan ∧
      (listed (JsonText.ofString text).root).length = 2 ∧
      (replaced (JsonText.ofString text).root).length = 0 := by
    decide +kernel
  obtain ⟨parsed, two, noneReplaced⟩ := reading
  have runs : (House.compile plan >>= fun house => .ok (house.rooms.map (·.devices.length))) =
      .ok [2] := by
    decide +kernel
  obtain ⟨house, compiled, _⟩ := bind_eq_ok.mp runs
  exact ⟨plan, house, parsed, compiled, two, (listed_devices_held_iff parsed compiled).2.2.mpr
    (List.eq_nil_of_length_eq_zero noneReplaced)⟩

/-- Of two lists under one key the house has only the last. -/
theorem listed_device_lost_under_repeated_key :
    let text := "\x7b\"rooms\":[\x7b\"short_name\":\"Buero\",\"long_name\":\"Büro\"," ++
      "\"floor\":1\x7d],\"devices\":\x7b\"Buero\":[\x7b\"type\":\"HmIpTaster\",\"index\":0\x7d]," ++
      "\"Buero\":[\x7b\"type\":\"HmIpWippe\",\"index\":0\x7d]\x7d\x7d"
    ∃ plan house, parse .json ⟨"rooms.json"⟩ text = .ok plan ∧ House.compile plan = .ok house ∧
      (house.rooms.flatMap (·.devices)).length = 1 ∧
      (listed (JsonText.ofString text).root).length = 2 ∧
      ¬ house.Holds (listed (JsonText.ofString text).root) := by
  intro text
  let plan : HousePlan :=
    { rooms := [{ shortName := "Buero", longName := "Büro", floor := 1 }]
      detached := .ofList [("Buero", [{ type := "HmIpWippe", index := 0 }])] }
  have reading : parse .json ⟨"rooms.json"⟩ text = .ok plan ∧
      (listed (JsonText.ofString text).root).length = 2 := by
    decide +kernel
  obtain ⟨parsed, two⟩ := reading
  have runs : (House.compile plan >>= fun house =>
      .ok (house.rooms.flatMap (·.devices)).length) = .ok 1 := by
    decide +kernel
  obtain ⟨house, compiled, counted⟩ := bind_eq_ok.mp runs
  have one := Except.ok.inj counted
  refine ⟨plan, house, parsed, compiled, one, two, fun holds => ?_⟩
  exact absurd (one.symm.trans (holds.count.trans two)) (by decide)

end HousePlan

end Homeplan
