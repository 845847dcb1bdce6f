import Homeplan.Defect
import Homeplan.DeviceClass
import Homeplan.HousePlan
import Homeplan.SortedMap

namespace Homeplan

/-! The device types that a house may use.

The built-in types come with the catalog; a house adds its custom types on top of them and never
replaces a type that is already there.
-/

structure CatalogEntry where
  id : String
  displayName : String
  deviceClass : DeviceClass
  /-- The capabilities of the type itself, without those that its class implies. -/
  capabilities : Capabilities
deriving DecidableEq, Repr

def CatalogEntry.allCapabilities (entry : CatalogEntry) : Capabilities :=
  entry.deviceClass.impliedCapabilities.union entry.capabilities

structure Catalog where
  entries : SortedMap String CatalogEntry
deriving DecidableEq

/-- A built-in type without a row of capabilities. -/
structure MissingCapabilityRow where
  type : String
deriving DecidableEq, Repr

def MissingCapabilityRow.message (missing : MissingCapabilityRow) : String :=
  "device type `" ++ missing.type ++ "` has no capability row"

namespace Catalog

/-- The built-in types: identifier, display name and class. -/
def builtinTypes : List (String × String × DeviceClass) :=
  [("HmIpTaster", "Taster", .hmIp),
    ("HmIpWippe", "Wippe", .hmIp),
    ("HmIpGriff", "Griff", .hmIp),
    ("HmIpBewegung", "Bewegung", .hmIp),
    ("HmIpPraezenz", "Praesenz", .hmIp),
    ("HmIpRoll", "Rollo", .hmIp),
    ("HmIpLampe", "Lampe", .hmIp),
    ("HmIpHeizung", "Heizung", .hmIp),
    ("HmIpTherm", "Thermometer", .hmIp),
    ("HmIpTuer", "Tuer", .hmIp),
    ("HmIpLichtsensor", "Lichtsensor", .hmIp),
    ("ZigbeeAquaraVibra", "Vibration", .zigbee),
    ("ZigbeeAquaraMotion", "Bewegung", .zigbee),
    ("ZigbeeAquaraOpple", "Taster", .zigbee),
    ("ZigbeeAquaraWater", "Wassermelder", .zigbee),
    ("ZigbeeBlitzShp", "Steckdose", .zigbee),
    ("ZigbeeIkeaSteckdose", "Steckdose", .zigbee),
    ("ZigbeeIlluDimmer", "Dimmer", .zigbee),
    ("ZigbeeIlluLampe", "Lampe", .zigbee),
    ("ZigbeeIlluLedRGBCCT", "Led", .zigbee),
    ("ZigbeeHeimanSmoke", "Rauchmelder", .zigbee),
    ("ZigbeeSMaBiTMagnetContact", "Magnetkontakt", .zigbee),
    ("ZigbeeSonoffTemp", "Thermometer", .zigbee),
    ("ZigbeeUbisysShutter", "Rollo", .zigbee),
    ("ZigbeeEuroHeater", "Heizung", .zigbee),
    ("ShellyShutter", "Rollo", .shutter),
    ("Window", "Fenster", .window),
    ("OwnSonosDevice", "Sonos", .speaker),
    ("OwnDaikinDevice", "Klima", .airConditioner),
    ("WledDevice", "Stripe", .wled)]

/-- The entry of a type: identifier, display name and class, with its own row of capabilities. -/
def entryOf : String × String × DeviceClass → Except MissingCapabilityRow CatalogEntry
  | (id, displayName, deviceClass) =>
      match Capabilities.ofType? id with
      | none => .error ⟨id⟩
      | some capabilities => .ok ⟨id, displayName, deviceClass, capabilities⟩

/-- The catalog of some types, unless one of them has no row of capabilities. -/
def ofTypes (types : List (String × String × DeviceClass)) :
    Except MissingCapabilityRow Catalog := do
  let entries ← types.mapM entryOf
  return ⟨.ofList (entries.map fun entry => (entry.id, entry))⟩

/-- The catalog of the built-in types, which all have a row of capabilities. -/
def builtin : Catalog :=
  (ofTypes builtinTypes).toOption.get (by decide +kernel)

theorem ofTypes_builtinTypes : ofTypes builtinTypes = .ok builtin := by
  rfl

def get? (catalog : Catalog) (type : String) : Option CatalogEntry :=
  catalog.entries.get? type

def contains (catalog : Catalog) (type : String) : Bool :=
  catalog.entries.contains type

def size (catalog : Catalog) : Nat := catalog.entries.size

def isEmpty (catalog : Catalog) : Bool := catalog.entries.isEmpty

def add (catalog : Catalog) (type : CustomType) : Except Defect Catalog :=
  match DeviceClass.ofName? type.className with
  | none => .error (.unsupportedDeviceClass type.id type.className)
  | some deviceClass =>
      if catalog.contains type.id then .error (.duplicateDeviceType type.id)
      else .ok ⟨catalog.entries.insert type.id
        ⟨type.id, type.displayName, deviceClass, .ofList type.capabilities⟩⟩

/-- Adds custom types one after the other, up to the first defect. -/
def extend (catalog : Catalog) (types : List CustomType) : Except Defect Catalog :=
  types.foldlM add catalog

end Catalog

end Homeplan
