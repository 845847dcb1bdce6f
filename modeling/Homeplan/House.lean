import Homeplan.Room

namespace Homeplan

/-! Compiled houses. -/

/-- A house: its catalog and its rooms, in the order of the plan. -/
structure House where
  catalog : Catalog
  rooms : List Room
deriving DecidableEq

namespace House

/-- The first short name that an earlier room has too. -/
def repeatedRoom? (seen : List String) : List String → Option String
  | [] => none
  | name :: rest => if seen.contains name then some name else repeatedRoom? (name :: seen) rest

def compileRoom (catalog : Catalog) (plan : HousePlan) (room : RoomPlan) : Except Defect Room := do
  let empty ← Room.ofPlan room
  empty.withDevices catalog (plan.devicesOf room)

/-- Compiles a house, up to the first defect: the custom types, then repeated rooms, then detached
devices of undeclared rooms, then the rooms one after the other. -/
def compile (plan : HousePlan) : Except Defect House := do
  let catalog ← Catalog.builtin.extend plan.customTypes
  let declared := plan.rooms.map (·.shortName)
  match repeatedRoom? [] declared with
  | some room => .error (.duplicateRoom room)
  | none =>
      match plan.detached.keys.find? (fun room => !declared.contains room) with
      | some room => .error (.unknownRoom room)
      | none =>
          let rooms ← plan.rooms.mapM (compileRoom catalog plan)
          return ⟨catalog, rooms⟩

end House

end Homeplan
