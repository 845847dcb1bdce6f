import Homeplan.Proofs.Room.Lookups
import Homeplan.RoomGroups
import Mathlib.Data.List.Sort

namespace Homeplan

/-! Which devices stand under a tag.

A bucket holds increasing positions, so collecting its devices is the same as filtering all devices
of the room: the lookup of a tag never reorders, repeats or drops a device.
-/

/-- The device joins the groups of its room that are not about a window. -/
def DevicePlan.isAmbient (plan : DevicePlan) : Bool :=
  plan.windowId.isNone && plan.includeInGroup

namespace Device

theorem window_mem_tags_iff {device : Device} {id : UInt32} :
    .window id ∈ device.tags ↔ device.plan.windowId = some id := by
  have notAmbient : ∀ row ∈ GroupTag.ambient, row.2 ≠ .window id := by simp [GroupTag.ambient]
  unfold tags GroupTag.ofDevice
  cases device.plan.windowId with
  | some mounted => simp [eq_comm]
  | none =>
      by_cases joins : device.plan.includeInGroup = true
      · simp only [joins, if_true, List.mem_map, List.mem_filter, reduceCtorEq, iff_false]
        intro tagged
        obtain ⟨row, ⟨inTable, _⟩, same⟩ := tagged
        exact notAmbient row inTable same
      · simp [joins]

/-- An ambient device has a tag if and only if it has one of the capabilities that the table lists
for this tag. -/
theorem ambient_mem_tags_iff {device : Device} {enough : List Capability} {tag : GroupTag}
    (row : (enough, tag) ∈ GroupTag.ambient) :
    tag ∈ device.tags ↔
      device.plan.isAmbient = true ∧ device.capabilities.containsAny enough = true := by
  have distinct : (GroupTag.ambient.map (·.2)).Nodup := by decide
  have notWindow : ∀ id, tag ≠ .window id := by
    intro id same
    simp [same, GroupTag.ambient] at row
  unfold tags GroupTag.ofDevice DevicePlan.isAmbient
  cases device.plan.windowId with
  | some mounted => simp [notWindow]
  | none =>
      by_cases joins : device.plan.includeInGroup = true
      · simp only [joins, if_true, List.mem_map, List.mem_filter, Option.isNone_none, Bool.and_true,
          true_and]
        constructor
        · intro tagged
          obtain ⟨other, ⟨inTable, has⟩, same⟩ := tagged
          obtain rfl := List.inj_on_of_nodup_map distinct inTable row same
          exact has
        · intro has
          exact ⟨_, ⟨row, has⟩, rfl⟩
      · simp [joins]

end Device

/-- The devices that join the ambient groups and have one of some capabilities. -/
def ambientHaving (devices : List Device) (enough : List Capability) : List Device :=
  devices.filter fun device => device.plan.isAmbient && enough.any device.has

def mountedHaving (devices : List Device) (window : UInt32) (capability : Capability) :
    List Device :=
  devices.filter fun device => device.plan.windowId = some window && device.has capability

namespace Room

/-- Increasing numbers below a limit are the numbers below the limit that are among them. -/
theorem filter_range_eq {positions : List Nat} {limit : Nat}
    (increasing : positions.Pairwise (· < ·)) (below : ∀ position ∈ positions, position < limit) :
    (List.range limit).filter (· ∈ positions) = positions := by
  refine List.Perm.eq_of_pairwise ?_ (List.pairwise_lt_range.filter _) increasing ?_
  · intro left right _ _ before after
    omega
  · refine (List.perm_ext_iff_of_nodup (List.nodup_range.filter _)
      (increasing.imp Nat.ne_of_lt)).mpr fun position => ?_
    simpa using below position

namespace Consistent

variable {room : Room} (consistent : room.Consistent)
include consistent

/-- The group of a tag is what is left of all devices when those without the tag are removed. -/
theorem group_eq_filter (tag : GroupTag) :
    room.group tag = room.devices.filter (tag ∈ ·.tags) := by
  unfold group devicesAt
  -- Both sides become filters of all positions: one by the bucket, the other by the device found.
  rw [← filter_range_eq (consistent.bucket_pairwise tag) fun _ => consistent.bucket_lt,
    List.filterMap_filter]
  conv_rhs => rw [← devicesAt_range room, devicesAt, List.filter_filterMap]
  refine List.filterMap_congr fun position inRange => ?_
  have located := List.getElem?_eq_getElem (List.mem_range.mp inRange)
  rw [located, Option.filter_some]
  simp [consistent.mem_bucket_iff, located]

theorem group_window (id : UInt32) :
    room.group (.window id) = room.devices.filter (·.plan.windowId = some id) := by
  simp only [consistent.group_eq_filter, Device.window_mem_tags_iff]

theorem group_ambient {enough : List Capability} {tag : GroupTag}
    (row : (enough, tag) ∈ GroupTag.ambient) :
    room.group tag = ambientHaving room.devices enough := by
  rw [consistent.group_eq_filter, ambientHaving]
  refine List.filter_congr fun device _ => ?_
  rw [Bool.eq_iff_iff, decide_eq_true_iff, Bool.and_eq_true, Device.ambient_mem_tags_iff row]
  rfl

theorem filter_group_window (id : UInt32) (capability : Capability) :
    (room.group (.window id)).filter (·.has capability) =
      mountedHaving room.devices id capability := by
  rw [consistent.group_window, List.filter_filter, mountedHaving]
  simp only [Bool.and_comm]

theorem mem_groupTags_iff {tag : GroupTag} :
    tag ∈ room.groupTags ↔ ∃ device ∈ room.devices, tag ∈ device.tags := by
  simp only [groupTags, SortedMap.keys, List.mem_map, Prod.exists, exists_and_right,
    exists_eq_right, SortedMap.mem_entries_iff]
  constructor
  · intro listed
    obtain ⟨members, found⟩ := listed
    obtain ⟨position, inBucket⟩ := List.exists_mem_of_ne_nil _ (consistent.bucket_nonempty found)
    obtain ⟨device, located, tagged⟩ :=
      consistent.mem_bucket_iff.mp (show position ∈ (room.groups.get? tag).getD [] by simpa [found])
    exact ⟨device, List.mem_of_getElem? located, tagged⟩
  · intro carried
    obtain ⟨device, inRoom, tagged⟩ := carried
    obtain ⟨position, located⟩ := List.mem_iff_getElem?.mp inRoom
    have inBucket := consistent.mem_bucket_iff.mpr ⟨device, located, tagged⟩
    cases found : room.groups.get? tag with
    | none => simp [found] at inBucket
    | some members => exact ⟨members, rfl⟩

theorem mem_windowIds_iff {id : UInt32} :
    id ∈ room.windowIds ↔ ∃ device ∈ room.devices, device.plan.windowId = some id := by
  have listed : id ∈ room.windowIds ↔ .window id ∈ room.groupTags := by
    simp only [windowIds, List.mem_filterMap]
    constructor
    · intro listed
      obtain ⟨tag, inTags, isWindow⟩ := listed
      cases tag <;> simp_all
    · intro inTags
      exact ⟨_, inTags, rfl⟩
  simp only [listed, consistent.mem_groupTags_iff, Device.window_mem_tags_iff]

end Consistent

/-- Windows are listed by number, whatever the order of their devices. -/
theorem windowIds_increasing (room : Room) : room.windowIds.Pairwise (· < ·) := by
  unfold windowIds groupTags SortedMap.keys
  rw [List.filterMap_map, List.pairwise_filterMap]
  refine room.groups.sorted.imp fun {left right} before leftId isLeft rightId isRight => ?_
  obtain ⟨leftTag, _⟩ := left
  obtain ⟨rightTag, _⟩ := right
  cases leftTag <;> simp at isLeft
  cases rightTag <;> simp at isRight
  subst isLeft isRight
  change List.Lex (fun left right : Nat => left < right) _ _ at before
  simpa [GroupTag.rank, UInt32.lt_iff_toNat_lt, List.cons_lex_cons_iff] using before

end Room

end Homeplan
