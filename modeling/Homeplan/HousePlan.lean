import Homeplan.Capability
import Homeplan.Json
import Homeplan.SortedMap

namespace Homeplan

/-! House plans: the custom device types, the rooms and the devices of a house as they are
described, before anything is checked against the catalog. -/

/-- Extra parameters that only some devices heed. -/
structure Extras where
  /-- Keeps the shutter of a window frame down at sunrise. -/
  noShutterOnSunrise : Bool
deriving DecidableEq, Repr

structure DevicePlan where
  type : String
  /-- Tells devices of one type in one room apart. -/
  index : UInt32
  address : Option String := none
  customName : Option String := none
  windowId : Option UInt32 := none
  /-- Whether the device joins the ambient groups of its room. -/
  includeInGroup : Bool := false
  extra : Option Extras := none
  settings : Option Settings := none
deriving DecidableEq

namespace DevicePlan

def inWindow (plan : DevicePlan) (window : UInt32) : DevicePlan :=
  { plan with windowId := some window }

def inGroup (plan : DevicePlan) : DevicePlan :=
  { plan with includeInGroup := true }

def named (plan : DevicePlan) (name : String) : DevicePlan :=
  { plan with customName := some name }

def atAddress (plan : DevicePlan) (address : String) : DevicePlan :=
  { plan with address := some address }

/-- Where messages say a device is: by its custom name, else by type and index. -/
def locator (plan : DevicePlan) (room : String) : String :=
  match plan.customName with
  | some name => room ++ "/" ++ name
  | none => room ++ "/" ++ plan.type ++ "#" ++ toString plan.index.toNat

end DevicePlan

/-- One room, with the devices listed inside it. -/
structure RoomPlan where
  /-- The key of the room; its module and class are named after it. -/
  shortName : String
  longName : String
  floor : Int32
  devices : List DevicePlan := []
  settings : Option Settings := none
deriving DecidableEq

/-- A device type that a house adds to the catalog. -/
structure CustomType where
  id : String
  displayName : String
  /-- The name of a device class, not checked yet. -/
  className : String
  capabilities : List Capability := []
deriving DecidableEq

/-- A whole house.  Detached devices are listed under the key of their room and follow the
devices listed inside it. -/
structure HousePlan where
  customTypes : List CustomType := []
  rooms : List RoomPlan := []
  detached : SortedMap String (List DevicePlan) := {}
deriving DecidableEq

namespace HousePlan

/-- Every device of a room: those listed inside it, then the detached ones. -/
def devicesOf (house : HousePlan) (room : RoomPlan) : List DevicePlan :=
  room.devices ++ (house.detached.get? room.shortName).getD []

end HousePlan

/-! ## JSON form

Members stand in declaration order.  An absent address, custom name, window, extra or settings
leaves no member; every other field is always written.
-/

namespace Json

def ofOption (name : String) (form : α → Json) : Option α → List (String × Json)
  | none => []
  | some value => [(name, form value)]

end Json

def Extras.toJson (extras : Extras) : Json :=
  .object [("no_shutter_on_sunrise", .bool extras.noShutterOnSunrise)]

def DevicePlan.toJson (plan : DevicePlan) : Json :=
  .object (
    [("type", .text plan.type), ("index", .integer plan.index.toNat)] ++
    Json.ofOption "address" .text plan.address ++
    Json.ofOption "custom_name" .text plan.customName ++
    Json.ofOption "window_id" (fun window => .integer window.toNat) plan.windowId ++
    [("include_in_group", .bool plan.includeInGroup)] ++
    Json.ofOption "extra" Extras.toJson plan.extra ++
    Json.ofOption "settings" Settings.toJson plan.settings)

def RoomPlan.toJson (plan : RoomPlan) : Json :=
  .object (
    [("short_name", .text plan.shortName), ("long_name", .text plan.longName),
      ("floor", .integer plan.floor.toInt),
      ("devices", .array (plan.devices.map DevicePlan.toJson))] ++
    Json.ofOption "settings" Settings.toJson plan.settings)

def CustomType.toJson (type : CustomType) : Json :=
  .object
    [("id", .text type.id), ("display_name", .text type.displayName),
      ("class", .text type.className),
      ("capabilities", .array (type.capabilities.map (fun capability => .text capability.name)))]

def HousePlan.toJson (plan : HousePlan) : Json :=
  .object
    [("device_types", .array (plan.customTypes.map CustomType.toJson)),
      ("rooms", .array (plan.rooms.map RoomPlan.toJson)),
      ("devices", .object (plan.detached.entries.map
        (fun entry => (entry.1, .array (entry.2.map DevicePlan.toJson)))))]

end Homeplan
