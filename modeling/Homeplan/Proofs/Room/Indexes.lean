import Homeplan.Proofs.SortedMap
import Homeplan.Room
import Mathlib.Data.List.Nodup

namespace Homeplan

/-! The indexes of a room agree with its devices.

A room keeps five views of one list of devices.  `Room.Consistent` says what each of them holds,
`Room.Consistent.append` is the only step that changes them, and a run of insertions keeps the
invariant whether or not its devices are accepted.
-/

theorem Device.tags_nodup (device : Device) : device.tags.Nodup := by
  have ambientTags : (GroupTag.ambient.map (·.2)).Nodup := by decide
  unfold Device.tags GroupTag.ofDevice
  split
  · exact List.nodup_singleton _
  · split
    · exact ambientTags.sublist (List.filter_sublist.map _)
    · exact List.nodup_nil

namespace Room

/-- Every view of the devices of a room is exactly what the list of devices says. -/
structure Consistent (room : Room) : Prop where
  /-- A type and an index lead to the position of the device that has them. -/
  position_iff : ∀ {type index position}, room.position? type index = some position ↔
    ∃ device, room.devices[position]? = some device ∧ device.type = type ∧ device.index = index
  bucket_increasing : ∀ {tag members}, room.groups.get? tag = some members →
    members.Pairwise (· < ·)
  bucket_nonempty : ∀ {tag members}, room.groups.get? tag = some members → members ≠ []
  mem_bucket_iff : ∀ {tag position}, position ∈ (room.groups.get? tag).getD [] ↔
    ∃ device, room.devices[position]? = some device ∧ tag ∈ device.tags
  identifiers_eq : room.identifiers = (room.devices.filter (·.hasMembers)).map (·.identifier)
  identifiers_nodup : room.identifiers.Nodup
  managed_iff : room.hasManagedDevices = true ↔ ∃ device ∈ room.devices, device.isManaged = true

theorem Consistent.ofPlan {plan : RoomPlan} {room : Room} (accepted : Room.ofPlan plan = .ok room) :
    room.Consistent := by
  unfold Room.ofPlan at accepted
  split at accepted
  · contradiction
  · split at accepted
    · contradiction
    · split at accepted
      · contradiction
      · cases accepted
        constructor <;> simp [position?]

section Append

variable (room : Room) (device : Device)

@[simp] theorem append_devices : (room.append device).devices = room.devices ++ [device] := rfl

theorem position?_append (type : String) (index : UInt32) :
    (room.append device).position? type index =
      if type = device.type ∧ index = device.index then some room.devices.length
      else room.position? type index := by
  unfold position? append
  rw [SortedMap.get?_alter]
  by_cases sameType : type = device.type
  · subst sameType
    simp only [if_true, true_and, Option.bind_some, SortedMap.get?_insert]
    cases room.byType.get? device.type <;> simp
  · simp [sameType]

/-- A position pushed once for every tag goes to the end of the buckets of these tags. -/
theorem get?_foldl_push {tags : List GroupTag} (distinct : tags.Nodup)
    (groups : SortedMap GroupTag (List Nat)) (position : Nat) (tag : GroupTag) :
    (tags.foldl (fun groups tag => groups.alter tag fun members => members.getD [] ++ [position])
      groups).get? tag =
      if tag ∈ tags then some ((groups.get? tag).getD [] ++ [position]) else groups.get? tag := by
  induction tags generalizing groups with
  | nil => simp
  | cons first rest ih =>
      obtain ⟨firstAbsent, restDistinct⟩ := List.nodup_cons.mp distinct
      rw [List.foldl_cons, ih restDistinct, SortedMap.get?_alter]
      by_cases same : tag = first
      · subst same
        simp [firstAbsent]
      · simp [same]

theorem groups_append (tag : GroupTag) :
    (room.append device).groups.get? tag =
      if tag ∈ device.tags then some ((room.groups.get? tag).getD [] ++ [room.devices.length])
      else room.groups.get? tag :=
  get?_foldl_push device.tags_nodup room.groups room.devices.length tag

theorem getElem?_append_devices (position : Nat) :
    (room.append device).devices[position]? =
      if position = room.devices.length then some device else room.devices[position]? := by
  rw [append_devices]
  by_cases last : position = room.devices.length
  · simp [last]
  · rw [if_neg last]
    by_cases before : position < room.devices.length
    · exact List.getElem?_append_left before
    · simp only [List.getElem?_eq_none_iff.mpr (Nat.le_of_not_lt before),
        List.getElem?_eq_none_iff, List.length_append, List.length_singleton]
      omega

end Append

namespace Consistent

variable {room : Room}

theorem position_lt (consistent : room.Consistent) {type : String} {index : UInt32} {position : Nat}
    (found : room.position? type index = some position) : position < room.devices.length := by
  obtain ⟨device, located, _⟩ := consistent.position_iff.mp found
  exact (List.getElem?_eq_some_iff.mp located).1

theorem bucket_lt (consistent : room.Consistent) {tag : GroupTag} {position : Nat}
    (member : position ∈ (room.groups.get? tag).getD []) : position < room.devices.length := by
  obtain ⟨device, located, _⟩ := consistent.mem_bucket_iff.mp member
  exact (List.getElem?_eq_some_iff.mp located).1

theorem bucket_pairwise (consistent : room.Consistent) (tag : GroupTag) :
    ((room.groups.get? tag).getD []).Pairwise (· < ·) := by
  cases found : room.groups.get? tag with
  | none => exact List.Pairwise.nil
  | some members => exact consistent.bucket_increasing found

variable {device : Device}

private theorem position_iff_append (consistent : room.Consistent)
    (free : room.position? device.type device.index = none)
    {type : String} {index : UInt32} {position : Nat} :
    (room.append device).position? type index = some position ↔
      ∃ found, (room.append device).devices[position]? = some found ∧
        found.type = type ∧ found.index = index := by
  rw [position?_append, getElem?_append_devices]
  by_cases last : position = room.devices.length
  · subst last
    have fresh : room.position? type index ≠ some room.devices.length := fun found =>
      Nat.lt_irrefl _ (consistent.position_lt found)
    by_cases own : type = device.type ∧ index = device.index
    · simp [own]
    · have other : ¬ (device.type = type ∧ device.index = index) := fun same =>
        own ⟨same.1.symm, same.2.symm⟩
      simp [own, fresh, other]
  · by_cases own : type = device.type ∧ index = device.index
    · obtain ⟨rfl, rfl⟩ := own
      have absent : ¬ ∃ found, room.devices[position]? = some found ∧
          found.type = device.type ∧ found.index = device.index := by
        rw [← consistent.position_iff, free]
        simp
      simpa [last, Ne.symm last] using absent
    · simp only [own, if_false, last]
      exact consistent.position_iff

private theorem mem_bucket_iff_append (consistent : room.Consistent)
    {tag : GroupTag} {position : Nat} :
    position ∈ ((room.append device).groups.get? tag).getD [] ↔
      ∃ found, (room.append device).devices[position]? = some found ∧ tag ∈ found.tags := by
  rw [groups_append, getElem?_append_devices]
  by_cases last : position = room.devices.length
  · subst last
    have fresh : room.devices.length ∉ (room.groups.get? tag).getD [] := fun member =>
      Nat.lt_irrefl _ (consistent.bucket_lt member)
    by_cases tagged : tag ∈ device.tags <;> simp [tagged, fresh]
  · by_cases tagged : tag ∈ device.tags <;>
      simp [tagged, last, consistent.mem_bucket_iff]

private theorem bucket_increasing_append (consistent : room.Consistent)
    {tag : GroupTag} {members : List Nat}
    (found : (room.append device).groups.get? tag = some members) :
    members.Pairwise (· < ·) := by
  rw [groups_append] at found
  split at found
  · cases found
    refine List.pairwise_append.mpr ⟨consistent.bucket_pairwise tag, List.pairwise_singleton _ _, ?_⟩
    intro earlier member last isLast
    rw [List.mem_singleton.mp isLast]
    exact consistent.bucket_lt member
  · exact consistent.bucket_increasing found

private theorem bucket_nonempty_append (consistent : room.Consistent)
    {tag : GroupTag} {members : List Nat}
    (found : (room.append device).groups.get? tag = some members) : members ≠ [] := by
  rw [groups_append] at found
  split at found
  · cases found
    simp
  · exact consistent.bucket_nonempty found

/-- Adding a device whose place and members are free keeps all indexes in step. -/
theorem append (consistent : room.Consistent)
    (free : room.position? device.type device.index = none)
    (unused : device.hasMembers = true → device.identifier ∉ room.identifiers) :
    (room.append device).Consistent where
  position_iff := consistent.position_iff_append free
  bucket_increasing := consistent.bucket_increasing_append
  bucket_nonempty := consistent.bucket_nonempty_append
  mem_bucket_iff := consistent.mem_bucket_iff_append
  identifiers_eq := by
    have kept := consistent.identifiers_eq
    by_cases members : device.hasMembers = true <;> simp [Room.append, members, kept]
  identifiers_nodup := by
    by_cases members : device.hasMembers = true
    · simpa [Room.append, members, List.nodup_append] using
        ⟨consistent.identifiers_nodup, fun _ member same => unused members (same ▸ member)⟩
    · simpa [Room.append, members] using consistent.identifiers_nodup
  managed_iff := by
    simp [Room.append, consistent.managed_iff, or_and_right, exists_or]

end Consistent

/-- An insertion is accepted where its place and its members are free, and then appends. -/
theorem addDevice_eq_ok_iff {room next : Room} {catalog : Catalog} {device : Device} :
    room.addDevice catalog device = .ok next ↔
      catalog.contains device.type = true ∧ room.position? device.type device.index = none ∧
      (device.hasMembers = true → device.identifier ∉ room.identifiers) ∧
      next = room.append device := by
  by_cases known : catalog.contains device.type = true
  · by_cases free : room.position? device.type device.index = none
    · by_cases used : device.hasMembers = true ∧ device.identifier ∈ room.identifiers
      · simp [Room.addDevice, known, free, used]
      · have unused : device.hasMembers = true → device.identifier ∉ room.identifiers :=
          fun members member => used ⟨members, member⟩
        have passes : (device.hasMembers && room.identifiers.contains device.identifier) = false := by
          simpa using unused
        simp only [Room.addDevice, known, free, passes, Bool.not_true, Option.isSome_none,
          Bool.false_eq_true, if_false, Except.ok.injEq, true_and]
        exact ⟨fun same => ⟨unused, same.symm⟩, fun accepted => accepted.2.symm⟩
    · simp [Room.addDevice, known, free, Option.isSome_iff_ne_none]
  · simp [Room.addDevice, known]

theorem Consistent.addDevice {room next : Room} {catalog : Catalog} {device : Device}
    (consistent : room.Consistent) (added : room.addDevice catalog device = .ok next) :
    next.Consistent := by
  obtain ⟨_, free, unused, rfl⟩ := addDevice_eq_ok_iff.mp added
  exact consistent.append free unused

/-- One attempt to add a device: the catalog that it is checked against, and a device that was
compiled for some room from some plan, possibly with another catalog. -/
structure Insertion where
  catalog : Catalog
  device : Device
  compiled : ∃ source owner plan, Device.compile source owner plan = .ok device

/-- The room after an attempt.  A refused device leaves it as it was. -/
def attempt (room : Room) (insertion : Insertion) : Room :=
  match room.addDevice insertion.catalog insertion.device with
  | .ok next => next
  | .error _ => room

def afterInsertions (room : Room) (insertions : List Insertion) : Room :=
  insertions.foldl attempt room

theorem Consistent.attempt {room : Room} (consistent : room.Consistent) (insertion : Insertion) :
    (room.attempt insertion).Consistent := by
  unfold Room.attempt
  split
  · rename_i next added
    exact consistent.addDevice added
  · exact consistent

theorem Consistent.afterInsertions {room : Room} (consistent : room.Consistent)
    (insertions : List Insertion) : (room.afterInsertions insertions).Consistent := by
  induction insertions generalizing room with
  | nil => exact consistent
  | cons insertion rest ih => exact ih (consistent.attempt insertion)

end Room

end Homeplan
