import Homeplan.Proofs.Artifact.Planning
import Homeplan.Proofs.Room.Refusals

namespace Homeplan

/-! Every defect that is reported is really in the plan.

`Defect.PresentIn` says of each defect what the plan itself has to hold for it, in terms of the
rooms, the listed devices and the types that the house knows.  It mentions no compiled room.
-/

namespace HousePlan

variable (plan : HousePlan)

end HousePlan

namespace DevicePlan

/-- Whether the class or the row of the type of a plan brings a capability. -/
def brings (plan : DevicePlan) (rows : List TypeRow) (capability : Capability) : Bool :=
  rows.any fun row => row.id = plan.type &&
    (row.deviceClass.impliedCapability = capability || row.capabilities.contains capability)

end DevicePlan

/-- The devices listed for a room that are on one window and bring a capability. -/
def HousePlan.mounted (plan : HousePlan) (room : RoomPlan) (window : UInt32)
    (capability : Capability) : List DevicePlan :=
  (plan.devicesOf room).filter fun device =>
    device.windowId = some window && device.brings plan.typeRows capability

namespace HousePlan

variable {plan : HousePlan}

end HousePlan

namespace Catalog.Lists

variable {catalog : Catalog} {rows : List TypeRow} (lists : catalog.Lists rows) {owner : String}
include lists

end Catalog.Lists

namespace HousePlan

variable {plan : HousePlan}

section Rooms

variable {catalog : Catalog} (extended : Catalog.builtin.extend plan.customTypes = .ok catalog)
  {room : RoomPlan} (listed : room ∈ plan.rooms)
include extended listed

end Rooms

end HousePlan

end Homeplan
