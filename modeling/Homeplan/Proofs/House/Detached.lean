import Homeplan.Proofs.Artifact.Planning

namespace Homeplan

/-! Devices can be listed inside their room or detached from it.

Moving every detached device into its room changes neither the compiled house nor the first defect
that is found, and so none of the artifacts.  Only a list of detached devices that belongs to no
room is in the way: it is a defect of its own, which has no place inside a room.
-/

namespace HousePlan

def inlinedRoom (plan : HousePlan) (room : RoomPlan) : RoomPlan :=
  { room with devices := room.devices ++ (plan.detached.get? room.shortName).getD [] }

/-- The plan with every detached device moved behind the devices listed inside its room. -/
def inlined (plan : HousePlan) : HousePlan where
  customTypes := plan.customTypes
  rooms := plan.rooms.map plan.inlinedRoom
  detached := {}

variable (plan : HousePlan)

theorem inlined_roomNames :
    plan.inlined.rooms.map (·.shortName) = plan.rooms.map (·.shortName) := by
  rw [inlined, List.map_map]
  rfl

theorem inlined_devicesOf (room : RoomPlan) :
    plan.inlined.devicesOf (plan.inlinedRoom room) = plan.devicesOf room := by
  have none_detached : plan.inlined.detached.get? (plan.inlinedRoom room).shortName = none :=
    SortedMap.get?_empty _
  rw [devicesOf, none_detached, Option.getD_none, List.append_nil]
  rfl

/-- No list of detached devices of the inlined plan can be undeclared: there is none. -/
theorem inlined_undeclared (declared : List String) :
    plan.inlined.detached.keys.find? (fun room => !declared.contains room) = none :=
  rfl

end HousePlan

namespace House

theorem compileRoom_inlined (catalog : Catalog) (plan : HousePlan) (room : RoomPlan) :
    compileRoom catalog plan.inlined (plan.inlinedRoom room) = compileRoom catalog plan room := by
  unfold compileRoom
  rw [plan.inlined_devicesOf]
  -- The devices listed in a plan do not matter to the room that is made from it.
  rfl

theorem compileRooms_inlined (catalog : Catalog) (plan : HousePlan) :
    plan.inlined.rooms.mapM (compileRoom catalog plan.inlined) =
      plan.rooms.mapM (compileRoom catalog plan) := by
  rw [HousePlan.inlined, List.mapM_map]
  exact congrArg plan.rooms.mapM (funext fun room => compileRoom_inlined catalog plan room)

theorem compile_inlined {plan : HousePlan}
    (declared : ∀ key ∈ plan.detached.keys, ∃ room ∈ plan.rooms, room.shortName = key) :
    compile plan.inlined = compile plan := by
  have noneUndeclared := find?_undeclared_eq_none_iff.mpr declared
  unfold compile
  simp only [plan.inlined_roomNames, plan.inlined_undeclared, noneUndeclared, compileRooms_inlined]
  rfl

end House

/-- Where every list of detached devices belongs to a room, it does not matter whether devices are
listed inside their room or detached: the house is the same, or else its first defect, and so are
the artifacts.  This needs no distinct room names, as two rooms of one name are a defect before any
device is looked at. -/
theorem HousePlan.detached_or_inline {plan : HousePlan}
    (declared : ∀ key ∈ plan.detached.keys, ∃ room ∈ plan.rooms, room.shortName = key) :
    House.compile plan.inlined = House.compile plan ∧
    ∀ options, plan.inlined.artifacts options = plan.artifacts options := by
  have same := House.compile_inlined declared
  refine ⟨same, fun options => ?_⟩
  unfold HousePlan.artifacts
  rw [same]

/-- A window whose frame is detached while its handle is listed inside the room, and a detached
button of a room without devices of its own. -/
theorem HousePlan.detached_frame_inlined :
    let plan : HousePlan :=
      { rooms :=
          [{ shortName := "Buero", longName := "Arbeitszimmer", floor := 1,
              devices := [{ type := "HmIpGriff", index := 0, windowId := some 1 }] },
            { shortName := "Flur", longName := "Flur", floor := 0 }]
        detached := .ofList
          [("Flur", [{ type := "HmIpTaster", index := 0 }]),
            ("Buero", [{ type := "Window", index := 0, windowId := some 1 }])] }
    (∀ key ∈ plan.detached.keys, ∃ room ∈ plan.rooms, room.shortName = key) ∧
    plan.inlined.rooms.map (·.devices.length) = [2, 1] ∧
    ∃ house artifacts, House.compile plan = .ok house ∧ House.compile plan.inlined = .ok house ∧
      plan.artifacts {} = .ok artifacts ∧ plan.inlined.artifacts {} = .ok artifacts := by
  intro plan
  have declared : ∀ key ∈ plan.detached.keys, ∃ room ∈ plan.rooms, room.shortName = key := by
    decide +kernel
  have runs : (House.compile plan >>= fun _ => plan.artifacts {} >>= fun _ =>
      .ok (plan.inlined.rooms.map (·.devices.length))) = .ok [2, 1] := by
    decide +kernel
  obtain ⟨house, compiled, later⟩ := bind_eq_ok.mp runs
  obtain ⟨artifacts, planned, counts⟩ := bind_eq_ok.mp later
  obtain ⟨sameHouse, sameArtifacts⟩ := HousePlan.detached_or_inline declared
  exact ⟨declared, Except.ok.inj counts, house, artifacts, compiled, sameHouse.trans compiled,
    planned, (sameArtifacts {}).trans planned⟩

end Homeplan
