import Homeplan.Proofs.Room.Groups

namespace Homeplan

/-! The window that the groups of a room are refused for.

A window is unfit if not exactly one of its devices can be its frame, or if several can be its blind
motor.  Windows are assembled by increasing number up to the first defect, so the unfit window with
the least number decides, and of its defects those of the frame come first.
-/

/-- What is wrong with a window of a room that has so many possible frames and blind motors. -/
inductive WindowRefusal (room : String) (id : UInt32) (frames motors : Nat) : Defect → Prop where
  | noFrame (none : frames = 0) : WindowRefusal room id frames motors (.missingWindowFrame room id)
  | severalFrames (several : 2 ≤ frames) :
      WindowRefusal room id frames motors (.ambiguousWindowFrame room id frames)
  | severalMotors (framed : frames = 1) (several : 2 ≤ motors) :
      WindowRefusal room id frames motors (.ambiguousBlindMotor room id motors)

theorem WindowRefusal.exists_iff {room : String} {id : UInt32} {frames motors : Nat} :
    (∃ defect, WindowRefusal room id frames motors defect) ↔ frames ≠ 1 ∨ 1 < motors := by
  constructor
  · intro refused
    obtain ⟨_, none | several | ⟨_, several⟩⟩ := refused <;> omega
  · intro unfit
    rcases Nat.lt_trichotomy frames 1 with fewer | single | more
    · exact ⟨_, .noFrame (by omega)⟩
    · exact ⟨_, .severalMotors single (by omega)⟩
    · exact ⟨_, .severalFrames more⟩

theorem WindowAssembly.ofMembers_eq_error_iff {room : String} {id : UInt32} {members : List Device}
    {defect : Defect} :
    WindowAssembly.ofMembers room id members = .error defect ↔
      WindowRefusal room id (members.filter (·.has .windowFrame)).length
        (members.filter (·.has .shutter)).length defect := by
  unfold WindowAssembly.ofMembers
  match frames : members.filter (·.has .windowFrame) with
  | [] =>
      simp only [frames, Except.error.injEq, List.length_nil]
      constructor
      · rintro rfl
        exact .noFrame rfl
      · rintro (_ | several | ⟨framed, _⟩)
        · rfl
        · omega
        · omega
  | [frame] =>
      simp only [frames, List.length_singleton]
      by_cases several : 1 < (members.filter (·.has .shutter)).length
      · simp only [several, if_true, Except.error.injEq]
        constructor
        · rintro rfl
          exact .severalMotors rfl several
        · rintro (none | more | _)
          · omega
          · omega
          · rfl
      · simp only [several, if_false, reduceCtorEq, false_iff]
        rintro (none | more | ⟨_, motors⟩) <;> omega
  | first :: second :: rest =>
      simp only [frames, Except.error.injEq]
      constructor
      · rintro rfl
        exact .severalFrames (by simp)
      · rintro (none | _ | ⟨framed, _⟩)
        · simp at none
        · rfl
        · simp at framed

namespace Room

/-- Some device is on the window, but its devices make no window. -/
structure Unfit (room : Room) (id : UInt32) : Prop where
  tagged : .window id ∈ room.groupTags
  miscounted : (mountedHaving room.devices id .windowFrame).length ≠ 1 ∨
    1 < (mountedHaving room.devices id .shutter).length

/-- The defects that a room has at a window, by the numbers of its possible frames and motors. -/
def RefusedAt (room : Room) (id : UInt32) : Defect → Prop :=
  WindowRefusal room.shortName id (mountedHaving room.devices id .windowFrame).length
    (mountedHaving room.devices id .shutter).length

namespace Consistent

variable {room : Room} (consistent : room.Consistent)
include consistent

theorem window_eq_error_iff {id : UInt32} {defect : Defect} :
    WindowAssembly.ofMembers room.shortName id (room.group (.window id)) = .error defect ↔
      room.RefusedAt id defect := by
  rw [WindowAssembly.ofMembers_eq_error_iff, consistent.filter_group_window,
    consistent.filter_group_window, RefusedAt]

theorem unfit_iff {id : UInt32} :
    room.Unfit id ↔ id ∈ room.windowIds ∧ ∃ defect, room.RefusedAt id defect := by
  have tagged : .window id ∈ room.groupTags ↔ id ∈ room.windowIds := by
    simp only [consistent.mem_groupTags_iff, Device.window_mem_tags_iff,
      consistent.mem_windowIds_iff]
  rw [RefusedAt, WindowRefusal.exists_iff, ← tagged]
  exact ⟨fun unfit => ⟨unfit.tagged, unfit.miscounted⟩, fun found => ⟨found.1, found.2⟩⟩

/-- The windows before the refused one are fit, and those behind it have greater numbers. -/
theorem refused_at_first_unfit {defect : Defect} (refused : RoomGroups.ofRoom room = .error defect) :
    ∃ id, room.Unfit id ∧ (∀ other, room.Unfit other → id ≤ other) ∧ room.RefusedAt id defect := by
  rcases bind_eq_error.mp refused with stopped | never
  · obtain ⟨before, id, after, split, passed, found⟩ := mapM_stopped stopped
    have increasing := room.windowIds_increasing
    rw [split, List.pairwise_append, List.pairwise_cons] at increasing
    obtain ⟨_, ⟨behind, _⟩, _⟩ := increasing
    have isRefused := consistent.window_eq_error_iff.mp found
    refine ⟨id, consistent.unfit_iff.mpr ⟨by simp [split], defect, isRefused⟩,
      fun other unfit => ?_, isRefused⟩
    obtain ⟨listed, otherDefect, otherRefused⟩ := consistent.unfit_iff.mp unfit
    rw [split, List.mem_append, List.mem_cons] at listed
    rcases listed with earlier | same | later
    · obtain ⟨window, assembled⟩ := passed other earlier
      have notAssembled := consistent.window_eq_error_iff.mpr otherRefused
      exact absurd (assembled.symm.trans notAssembled) (by simp)
    · exact UInt32.le_of_eq same.symm
    · exact UInt32.le_of_lt (behind other later)
  · obtain ⟨_, _, impossible⟩ := never
    cases impossible

theorem exists_refused_iff :
    (∃ defect, RoomGroups.ofRoom room = .error defect) ↔ ∃ id, room.Unfit id := by
  constructor
  · intro refused
    obtain ⟨defect, failed⟩ := refused
    obtain ⟨id, unfit, _⟩ := consistent.refused_at_first_unfit failed
    exact ⟨id, unfit⟩
  · intro exists_unfit
    obtain ⟨id, unfit⟩ := exists_unfit
    obtain ⟨listed, defect, refusedAt⟩ := consistent.unfit_iff.mp unfit
    cases result : RoomGroups.ofRoom room with
    | error found => exact ⟨found, rfl⟩
    | ok groups =>
        obtain ⟨windows, _⟩ := RoomGroups.ofRoom_eq_ok_iff.mp result
        obtain ⟨window, assembled⟩ := exists_forall₂_iff.mp ⟨_, windows⟩ id listed
        have notAssembled := consistent.window_eq_error_iff.mpr refusedAt
        exact absurd (assembled.symm.trans notAssembled) (by simp)

end Consistent

/-- The groups of a room are refused if and only if some window is unfit, and then for what is wrong
with the unfit window of the least number: no frame, else how many frames it has, else, with its one
frame, how many motors.  A device that can be both counts as both. -/
theorem assembly_refused_at_first_unfit_window {plan : RoomPlan} {fresh : Room}
    (accepted : Room.ofPlan plan = .ok fresh) (insertions : List Insertion) :
    let room := fresh.afterInsertions insertions
    ((∃ defect, RoomGroups.ofRoom room = .error defect) ↔ ∃ id, room.Unfit id) ∧
    ∀ defect, RoomGroups.ofRoom room = .error defect →
      ∃ id, room.Unfit id ∧ (∀ other, room.Unfit other → id.toNat ≤ other.toNat) ∧
        room.RefusedAt id defect := by
  intro room
  have consistent : room.Consistent := (Consistent.ofPlan accepted).afterInsertions insertions
  refine ⟨consistent.exists_refused_iff, fun defect refused => ?_⟩
  obtain ⟨id, unfit, least, refusedAt⟩ := consistent.refused_at_first_unfit refused
  exact ⟨id, unfit, fun other otherUnfit => UInt32.le_iff_toNat_le.mp (least other otherUnfit),
    refusedAt⟩

/-- A catalog with a frame that is a blind motor too. -/
def motorFrameCatalog : Catalog where
  entries := Catalog.builtin.entries.insert "Rollfenster"
    ⟨"Rollfenster", "Rollfenster", .window, .ofList [.shutter]⟩

/-- An attempt to add a device on a window. -/
def mountedInsertion (type : String) (window : UInt32) (entry : CatalogEntry)
    (compiled : Device.compile motorFrameCatalog "Buero"
        { type := type, index := 0, windowId := some window } =
      .ok ⟨"Buero", { type := type, index := 0, windowId := some window }, entry⟩) : Insertion where
  catalog := motorFrameCatalog
  device := ⟨"Buero", { type := type, index := 0, windowId := some window }, entry⟩
  compiled := ⟨_, _, _, compiled⟩

def griffOnTen : Insertion :=
  mountedInsertion "HmIpGriff" 10 ⟨"HmIpGriff", "Griff", .hmIp, .ofList [.handle]⟩
    (by decide +kernel)

def rolloOnNine : Insertion :=
  mountedInsertion "ShellyShutter" 9 ⟨"ShellyShutter", "Rollo", .shutter, .ofList []⟩
    (by decide +kernel)

def rollfensterOnNine : Insertion :=
  mountedInsertion "Rollfenster" 9 ⟨"Rollfenster", "Rollfenster", .window, .ofList [.shutter]⟩
    (by decide +kernel)

/-- Window 10 has no frame and is filled first, but window 9 comes before it: its frame is a second
motor. -/
theorem assembly_refused_at_ninth_window :
    ∃ fresh, Room.ofPlan { shortName := "Buero", longName := "Arbeitszimmer", floor := 1 } =
        .ok fresh ∧
      let room := fresh.afterInsertions [griffOnTen, rolloOnNine, rollfensterOnNine]
      RoomGroups.ofRoom room = .error (.ambiguousBlindMotor "Buero" 9 2) ∧
      ∃ id, room.Unfit id ∧ (∀ other, room.Unfit other → id.toNat ≤ other.toNat) ∧
        room.RefusedAt id (.ambiguousBlindMotor "Buero" 9 2) := by
  let fresh := vacant { shortName := "Buero", longName := "Arbeitszimmer", floor := 1 }
  have accepted : Room.ofPlan { shortName := "Buero", longName := "Arbeitszimmer", floor := 1 } =
      .ok fresh := rfl
  have refused :
      RoomGroups.ofRoom (fresh.afterInsertions [griffOnTen, rolloOnNine, rollfensterOnNine]) =
        .error (.ambiguousBlindMotor "Buero" 9 2) := by decide +kernel
  exact ⟨fresh, accepted, refused,
    (assembly_refused_at_first_unfit_window accepted _).2 _ refused⟩

end Room

end Homeplan
