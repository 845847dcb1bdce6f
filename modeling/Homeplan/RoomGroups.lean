import Homeplan.Room

namespace Homeplan

/-! The groups of a room, assembled from its tags.

Every kind of group has a rule of its own, and a kind without devices is left out.
-/

/-- The kinds of groups, in the order in which they are built. -/
inductive GroupKind where
  | window
  | presence
  | light
  | buttons
  | smoke
  | water
  | heating
  | speaker
deriving DecidableEq, Repr

/-- One window: its frame and the devices mounted on it. -/
structure WindowAssembly where
  id : UInt32
  frame : Device
  handles : List Device
  vibrations : List Device
  blindMotor : Option Device
  magnetContacts : List Device
  /-- Whether the shutter stays down at sunrise, as the frame says. -/
  noShutterOnSunrise : Bool
deriving DecidableEq

structure PresenceGroup where
  motion : List Device
  presence : List Device
deriving DecidableEq

structure LightGroup where
  lamps : List Device
  plugs : List Device
  leds : List Device
  stripes : List Device
deriving DecidableEq

structure HeatingGroup where
  heaters : List Device
  temperature : List Device
  humidity : List Device
  airConditioners : List Device
deriving DecidableEq

structure RoomGroups where
  /-- By increasing window number. -/
  windows : List WindowAssembly
  presence : Option PresenceGroup
  light : Option LightGroup
  buttons : Option (List Device)
  smoke : Option (List Device)
  water : Option (List Device)
  heating : Option HeatingGroup
  speakers : Option (List Device)
  /-- The devices that learn the name of their room. -/
  roomNameWritebacks : List Device
deriving DecidableEq

def nonempty? (items : List α) : Option (List α) :=
  if items.isEmpty then none else some items

namespace WindowAssembly

/-- Assembles a window from its devices: exactly one frame, at most one blind motor. -/
def ofMembers (room : String) (id : UInt32) (members : List Device) :
    Except Defect WindowAssembly :=
  let having (capability : Capability) := members.filter (·.has capability)
  match having .windowFrame with
  | [] => .error (.missingWindowFrame room id)
  | [frame] =>
      let motors := having .shutter
      if 1 < motors.length then .error (.ambiguousBlindMotor room id motors.length)
      else .ok {
        id := id
        frame := frame
        handles := having .handle
        vibrations := having .vibration
        blindMotor := motors.head?
        magnetContacts := having .magnetContact
        noShutterOnSunrise := frame.noShutterOnSunrise }
  | frames => .error (.ambiguousWindowFrame room id frames.length)

end WindowAssembly

namespace Room

/-- The windows that some device is mounted on, by increasing number. -/
def windowIds (room : Room) : List UInt32 :=
  room.groupTags.filterMap fun
    | .window id => some id
    | _ => none

def presenceGroup? (room : Room) : Option PresenceGroup :=
  let group : PresenceGroup := ⟨room.group .motion, room.group .presence⟩
  if group.motion.isEmpty && group.presence.isEmpty then none else some group

def lightGroup? (room : Room) : Option LightGroup :=
  let group : LightGroup := ⟨room.group .light, room.group .plug, room.group .led,
    room.group .stripe⟩
  if group.lamps.isEmpty && group.plugs.isEmpty && group.leds.isEmpty && group.stripes.isEmpty then
    none
  else some group

/-- The heating group takes the devices with its tag, and every air conditioner of the room. -/
def heatingGroup? (room : Room) : Option HeatingGroup :=
  let members := room.group .heating
  let airConditioners := room.devices.filter (·.has .airConditioner)
  if members.isEmpty && airConditioners.isEmpty then none
  else some {
    heaters := members.filter (·.has .heaterActuator)
    temperature := members.filter (·.has .temperature)
    humidity := members.filter (·.has .humidity)
    airConditioners := airConditioners }

end Room

namespace RoomGroups

/-- Assembles the groups of a room; the first window with a defect, by number, fails. -/
def ofRoom (room : Room) : Except Defect RoomGroups := do
  let windows ← room.windowIds.mapM fun id =>
    WindowAssembly.ofMembers room.shortName id (room.group (.window id))
  let smoke := nonempty? (room.group .smoke)
  let water := nonempty? (room.group .water)
  return {
    windows := windows
    presence := room.presenceGroup?
    light := room.lightGroup?
    buttons := nonempty? (room.group .button)
    smoke := smoke
    water := water
    heating := room.heatingGroup?
    speakers := nonempty? (room.group .speaker)
    roomNameWritebacks := smoke.getD [] ++ water.getD [] }

def kinds (groups : RoomGroups) : List GroupKind :=
  [(GroupKind.window, !groups.windows.isEmpty),
    (.presence, groups.presence.isSome),
    (.light, groups.light.isSome),
    (.buttons, groups.buttons.isSome),
    (.smoke, groups.smoke.isSome),
    (.water, groups.water.isSome),
    (.heating, groups.heating.isSome),
    (.speaker, groups.speakers.isSome)].filterMap
      fun (kind, present) => if present then some kind else none

end RoomGroups

end Homeplan
