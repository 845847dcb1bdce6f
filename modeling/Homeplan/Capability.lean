namespace Homeplan

/-! The behavioural facets of a device, and sets of them.

A set is a word with one bit per capability, so equal sets are equal words and
`toList` lists the members in declaration order.
-/

inductive Capability where
  | shutter
  | windowFrame
  | handle
  | vibration
  | magnetContact
  | motion
  | presence
  | button
  | lamp
  | dimmableLamp
  | plug
  | led
  | speaker
  | airConditioner
  | ledStrip
  | smokeDetector
  | waterDetector
  | heaterActuator
  | temperature
  | humidity
  | managedRegistry
deriving DecidableEq, Repr

namespace Capability

def all : List Capability :=
  [.shutter, .windowFrame, .handle, .vibration, .magnetContact, .motion, .presence, .button,
    .lamp, .dimmableLamp, .plug, .led, .speaker, .airConditioner, .ledStrip, .smokeDetector,
    .waterDetector, .heaterActuator, .temperature, .humidity, .managedRegistry]

def name : Capability → String
  | .shutter => "shutter"
  | .windowFrame => "window_frame"
  | .handle => "handle"
  | .vibration => "vibration"
  | .magnetContact => "magnet_contact"
  | .motion => "motion"
  | .presence => "presence"
  | .button => "button"
  | .lamp => "lamp"
  | .dimmableLamp => "dimmable_lamp"
  | .plug => "plug"
  | .led => "led"
  | .speaker => "speaker"
  | .airConditioner => "air_conditioner"
  | .ledStrip => "led_strip"
  | .smokeDetector => "smoke_detector"
  | .waterDetector => "water_detector"
  | .heaterActuator => "heater_actuator"
  | .temperature => "temperature"
  | .humidity => "humidity"
  | .managedRegistry => "managed_registry"

def ofName? (name : String) : Option Capability :=
  all.find? (·.name = name)

/-- The bit that stands for the capability in a set. -/
def position : Capability → Nat
  | .shutter => 0
  | .windowFrame => 1
  | .handle => 2
  | .vibration => 3
  | .magnetContact => 4
  | .motion => 5
  | .presence => 6
  | .button => 7
  | .lamp => 8
  | .dimmableLamp => 9
  | .plug => 10
  | .led => 11
  | .speaker => 12
  | .airConditioner => 13
  | .ledStrip => 14
  | .smokeDetector => 15
  | .waterDetector => 16
  | .heaterActuator => 17
  | .temperature => 18
  | .humidity => 19
  | .managedRegistry => 20

end Capability

/-- A set of capabilities: bit `position` of the word tells whether a capability is in it. -/
structure Capabilities where
  bits : Nat
deriving DecidableEq, Repr

namespace Capabilities

def none : Capabilities := ⟨0⟩

def insert (set : Capabilities) (capability : Capability) : Capabilities :=
  ⟨set.bits ||| 1 <<< capability.position⟩

def ofList (capabilities : List Capability) : Capabilities :=
  capabilities.foldl insert none

/-- Adds what stands from an index on. -/
def addFrom (capabilities : Array Capability) (index : Nat) (set : Capabilities) : Capabilities :=
  if _ : index < capabilities.size then
    addFrom capabilities (index + 1) (set.insert capabilities[index])
  else set
termination_by capabilities.size - index

/-- The set of an array, built place by place. -/
def ofArray (capabilities : Array Capability) : Capabilities :=
  addFrom capabilities 0 none

def union (left right : Capabilities) : Capabilities :=
  ⟨left.bits ||| right.bits⟩

def contains (set : Capabilities) (capability : Capability) : Bool :=
  set.bits.testBit capability.position

def containsAny (set : Capabilities) (capabilities : List Capability) : Bool :=
  capabilities.any set.contains

def isEmpty (set : Capabilities) : Bool := set.bits = 0

def toList (set : Capabilities) : List Capability :=
  Capability.all.filter set.contains

/-- The rows of the built-in types: what a type can do besides what its class implies. -/
def typeRows : List (String × List Capability) :=
  [("HmIpTaster", [.button]),
    ("HmIpWippe", [.button]),
    ("HmIpGriff", [.handle]),
    ("HmIpBewegung", [.motion]),
    ("HmIpPraezenz", [.presence]),
    ("HmIpRoll", [.shutter]),
    ("HmIpLampe", [.lamp]),
    ("HmIpHeizung", [.heaterActuator]),
    ("HmIpTherm", [.temperature, .humidity]),
    ("HmIpTuer", [.magnetContact]),
    ("HmIpLichtsensor", []),
    ("ZigbeeAquaraVibra", [.vibration]),
    ("ZigbeeAquaraMotion", [.motion]),
    ("ZigbeeAquaraOpple", [.button]),
    ("ZigbeeAquaraWater", [.waterDetector]),
    ("ZigbeeBlitzShp", [.plug]),
    ("ZigbeeIkeaSteckdose", [.plug]),
    ("ZigbeeIlluDimmer", [.dimmableLamp]),
    ("ZigbeeIlluLampe", [.lamp]),
    ("ZigbeeIlluLedRGBCCT", [.led]),
    ("ZigbeeHeimanSmoke", [.smokeDetector]),
    ("ZigbeeSMaBiTMagnetContact", [.magnetContact]),
    ("ZigbeeSonoffTemp", [.temperature, .humidity]),
    ("ZigbeeUbisysShutter", [.shutter]),
    ("ZigbeeEuroHeater", [.heaterActuator]),
    ("ShellyShutter", []),
    ("Window", []),
    ("OwnSonosDevice", []),
    ("OwnDaikinDevice", []),
    ("WledDevice", [])]

/-- The set in the first row of a type. -/
def ofType? (type : String) : Option Capabilities :=
  (typeRows.find? (·.1 = type)).map fun row => ofList row.2

end Capabilities

end Homeplan
