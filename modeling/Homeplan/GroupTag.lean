import Homeplan.Capability
import Homeplan.SortedMap

namespace Homeplan

/-! Labels by which the devices of a room are grouped. -/

inductive GroupTag where
  /-- All devices of one window. -/
  | window (id : UInt32)
  | motion
  | presence
  | light
  | led
  | plug
  | speaker
  | airConditioner
  | stripe
  | button
  /-- Heater actuators and sensors of temperature and humidity. -/
  | heating
  | smoke
  | water
deriving DecidableEq, Repr

namespace GroupTag

/-- The place of a tag in the order of tags: windows by number, then the ambient tags. -/
def rank : GroupTag → List Nat
  | .window id => [0, id.toNat]
  | .motion => [1]
  | .presence => [2]
  | .light => [3]
  | .led => [4]
  | .plug => [5]
  | .speaker => [6]
  | .airConditioner => [7]
  | .stripe => [8]
  | .button => [9]
  | .heating => [10]
  | .smoke => [11]
  | .water => [12]

theorem rank_injective {left right : GroupTag} (same : left.rank = right.rank) : left = right := by
  cases left <;> cases right <;> simp_all [rank, UInt32.toNat_inj]

instance : KeyOrder GroupTag := .byRank rank rank_injective

def name : GroupTag → String
  | .window id => "Window_" ++ toString id.toNat
  | .motion => "Motion"
  | .presence => "Presence"
  | .light => "Light"
  | .led => "Led"
  | .plug => "Plug"
  | .speaker => "Speaker"
  | .airConditioner => "Ac"
  | .stripe => "Stripe"
  | .button => "Button"
  | .heating => "Heating"
  | .smoke => "Smoke"
  | .water => "Water"

/-- The ambient tags in the order in which a device lists them, each with the capabilities of which
one is enough. -/
def ambient : List (List Capability × GroupTag) :=
  [([.motion], .motion),
    ([.presence], .presence),
    ([.lamp, .dimmableLamp], .light),
    ([.led], .led),
    ([.plug], .plug),
    ([.speaker], .speaker),
    ([.airConditioner], .airConditioner),
    ([.ledStrip], .stripe),
    ([.button], .button),
    ([.heaterActuator, .temperature, .humidity], .heating),
    ([.smokeDetector], .smoke),
    ([.waterDetector], .water)]

/-- The tags of a device.  A window takes it whole; without one, its capabilities count only if it
joins the ambient groups. -/
def ofDevice (capabilities : Capabilities) (window : Option UInt32) (includeInGroup : Bool) :
    List GroupTag :=
  match window with
  | some id => [.window id]
  | none =>
      if includeInGroup then
        (ambient.filter fun (enough, _) => capabilities.containsAny enough).map (·.2)
      else []

end GroupTag

end Homeplan
