import Homeplan.Catalog
import Homeplan.GroupTag

namespace Homeplan

/-! Compiled devices: device plans resolved against the catalog.

A device keeps its plan and its catalog entry; every name, capability and tag is derived from them.
-/

/-- A device of a room, with the catalog entry of its type. -/
structure Device where
  /-- The key of the room that owns the device. -/
  room : String
  plan : DevicePlan
  entry : CatalogEntry
deriving DecidableEq

namespace Device

def type (device : Device) : String := device.plan.type

def index (device : Device) : UInt32 := device.plan.index

def deviceClass (device : Device) : DeviceClass := device.entry.deviceClass

/-- Blanks and dots of a custom name become underscores. -/
def memberSafe (character : Char) : Char :=
  if character = ' ' || character = '.' then '_' else character

/-- The short name that a plan gets: its custom name, else the display name of its type, which is
numbered from index 2 on. -/
def shortName (plan : DevicePlan) (displayName : String) : String :=
  match plan.customName with
  | some name => name.map memberSafe
  | none =>
      if 1 < plan.index then displayName ++ "_" ++ toString plan.index.toNat else displayName

/-- The short name; the accessor of the device is called so. -/
def name (device : Device) : String := shortName device.plan device.entry.displayName

/-- The room and the name, with blanks for underscores. -/
def longName (device : Device) : String :=
  (device.room ++ " " ++ device.name).map
    (fun character => if character = '_' then ' ' else character)

def identifier (device : Device) : String := "id" ++ device.name

/-- The method that sets a member: its name with the first letter raised, behind `set`.  Only ASCII
letters are raised, which is enough for identifiers of devices: they begin with `id`. -/
def mutatorName (identifier : String) : String :=
  match identifier.toList with
  | [] => "set"
  | first :: rest => "set" ++ String.ofList (first.toUpper :: rest)

def mutator (device : Device) : String := mutatorName device.identifier

theorem mutator_eq (device : Device) : device.mutator = "setId" ++ device.name := by
  apply String.toList_inj.mp
  simp [mutator, mutatorName, identifier]

def capabilities (device : Device) : Capabilities := device.entry.allCapabilities

def has (device : Device) (capability : Capability) : Bool :=
  device.capabilities.contains capability

def tags (device : Device) : List GroupTag :=
  GroupTag.ofDevice device.capabilities device.plan.windowId device.plan.includeInGroup

def noShutterOnSunrise (device : Device) : Bool :=
  device.plan.extra.any (·.noShutterOnSunrise)

/-- Managed devices are registered with the managed registry. -/
def isManaged (device : Device) : Bool := device.has .managedRegistry

def isSingleton (device : Device) : Bool := device.deviceClass.isSingleton

def isBusAddressed (device : Device) : Bool := device.deviceClass.isBusAddressed

/-- Whether the room class gets members for the device; window frames have none. -/
def hasMembers (device : Device) : Bool := device.isBusAddressed || device.isSingleton

def compile (catalog : Catalog) (room : String) (plan : DevicePlan) : Except Defect Device :=
  match catalog.get? plan.type with
  | none => .error (.unknownDeviceType plan.type (plan.locator room))
  | some entry =>
      if entry.allCapabilities.contains .windowFrame && plan.settings.isSome then
        .error (.frameSettingsUnsupported room (shortName plan entry.displayName))
      else .ok ⟨room, plan, entry⟩

end Device

end Homeplan
