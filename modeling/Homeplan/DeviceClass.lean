import Homeplan.Capability

namespace Homeplan

/-! The protocol or vendor families that device types belong to. -/

inductive DeviceClass where
  | hmIp
  | zigbee
  | shutter
  | window
  | speaker
  | airConditioner
  | wled
deriving DecidableEq, Repr

namespace DeviceClass

def all : List DeviceClass :=
  [.hmIp, .zigbee, .shutter, .window, .speaker, .airConditioner, .wled]

def name : DeviceClass → String
  | .hmIp => "hmip"
  | .zigbee => "zigbee"
  | .shutter => "shutter"
  | .window => "window"
  | .speaker => "speaker"
  | .airConditioner => "air_conditioner"
  | .wled => "wled"

def ofName? (name : String) : Option DeviceClass :=
  all.find? (·.name = name)

def impliedCapability : DeviceClass → Capability
  | .hmIp => .managedRegistry
  | .zigbee => .managedRegistry
  | .shutter => .shutter
  | .window => .windowFrame
  | .speaker => .speaker
  | .airConditioner => .airConditioner
  | .wled => .ledStrip

def impliedCapabilities (deviceClass : DeviceClass) : Capabilities :=
  .ofList [deviceClass.impliedCapability]

/-- Devices of a singleton class register themselves: the room holds the object itself instead of
an identifier to look it up by. -/
def isSingleton : DeviceClass → Bool
  | .speaker | .airConditioner => true
  | _ => false

/-- Bus-addressed devices get an identifier, an accessor and a mutator in the room. -/
def isBusAddressed : DeviceClass → Bool
  | .speaker | .airConditioner | .window => false
  | _ => true

end DeviceClass

end Homeplan
