import Homeplan.Device
import Homeplan.Text.Blank
import Homeplan.Text.Numeric

namespace Homeplan

/-! Compiled rooms: devices in insertion order, indexed by type and by group tag.

Devices are only ever added, so the indexes only grow.
-/

/-- A room and its devices.  The indexes hold positions in `devices`. -/
structure Room where
  shortName : String
  longName : String
  floor : Int32
  settings : Option Settings
  devices : List Device
  /-- Device type, then device index, to position. -/
  byType : SortedMap String (SortedMap UInt32 Nat)
  /-- Tag to the positions of its devices, in insertion order. -/
  groups : SortedMap GroupTag (List Nat)
  /-- The identifiers of the devices that have members in the room class. -/
  identifiers : List String
  hasManagedDevices : Bool
deriving DecidableEq

namespace Room

/-- Whether a short name can be part of a class name and a folder name. -/
def isValidName (name : String) : Bool :=
  name.toList.all (fun character => Text.isAlphanumeric character || character = '_')

/-- An empty room; the devices listed in the plan are not added. -/
def ofPlan (plan : RoomPlan) : Except Defect Room :=
  if Text.isBlank plan.shortName then .error (.emptyName .short)
  else if !isValidName plan.shortName then .error (.invalidRoomName plan.shortName)
  else if Text.isBlank plan.longName then .error (.emptyName .long)
  else .ok {
    shortName := plan.shortName
    longName := plan.longName
    floor := plan.floor
    settings := plan.settings
    devices := []
    byType := {}
    groups := {}
    identifiers := []
    hasManagedDevices := false }

/-- The position of the device with this type and index. -/
def position? (room : Room) (type : String) (index : UInt32) : Option Nat :=
  (room.byType.get? type).bind (·.get? index)

/-- Adds a device to the indexes and behind the other devices. -/
def append (room : Room) (device : Device) : Room :=
  let position := room.devices.length
  { room with
    devices := room.devices ++ [device]
    byType := room.byType.alter device.type fun slots =>
      (slots.getD {}).insert device.index position
    groups := device.tags.foldl
      (fun groups tag => groups.alter tag fun members => members.getD [] ++ [position])
      room.groups
    identifiers :=
      if device.hasMembers then room.identifiers ++ [device.identifier] else room.identifiers
    hasManagedDevices := room.hasManagedDevices || device.isManaged }

/-- Adds a compiled device, unless its type is unknown, its type and index are taken, or another
device has members of the same names. -/
def addDevice (room : Room) (catalog : Catalog) (device : Device) : Except Defect Room :=
  if !catalog.contains device.type then
    .error (.unknownTypeInRoom room.shortName device.type)
  else if (room.position? device.type device.index).isSome then
    .error (.duplicateDevice room.shortName device.type device.index)
  else if device.hasMembers && room.identifiers.contains device.identifier then
    .error (.duplicateIdentifier room.shortName device.identifier device.type device.index)
  else .ok (room.append device)

def compileDevice (catalog : Catalog) (room : Room) (plan : DevicePlan) : Except Defect Room := do
  let device ← Device.compile catalog room.shortName plan
  room.addDevice catalog device

/-- Compiles device plans into the room in their order, up to the first defect.  The devices before
it stay in the room. -/
def compileDevices (catalog : Catalog) (room : Room) : List DevicePlan → Room × Option Defect
  | [] => (room, none)
  | plan :: rest =>
      match room.compileDevice catalog plan with
      | .ok next => compileDevices catalog next rest
      | .error defect => (room, some defect)

/-- The room with all devices of the plans, if none of them has a defect. -/
def withDevices (catalog : Catalog) (room : Room) (plans : List DevicePlan) : Except Defect Room :=
  match room.compileDevices catalog plans with
  | (complete, none) => .ok complete
  | (_, some defect) => .error defect

def slug (room : Room) : String := toString room.floor.toInt ++ "_" ++ room.shortName

def className (room : Room) : String := "Room" ++ room.shortName

def devicesAt (room : Room) (positions : List Nat) : List Device :=
  positions.filterMap (room.devices[·]?)

/-- The devices of a type, by increasing index. -/
def devicesOfType (room : Room) (type : String) : List Device :=
  match room.byType.get? type with
  | some slots => room.devicesAt slots.values
  | none => []

def deviceTypes (room : Room) : List String := room.byType.keys

/-- The devices with a tag, in insertion order. -/
def group (room : Room) (tag : GroupTag) : List Device :=
  room.devicesAt ((room.groups.get? tag).getD [])

/-- The tags with at least one device, in order. -/
def groupTags (room : Room) : List GroupTag := room.groups.keys

end Room

end Homeplan
