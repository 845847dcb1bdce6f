import Homeplan.Artifact.Naming
import Homeplan.TypeScript.Syntax

namespace Homeplan.Room

/-! The generated module of a room.

The class declares the names, settings and device slots of the room first, then the accessors and
mutators of its devices, then the methods that set up devices and groups.  Statements behind the
class register it with the runtime.
-/

open TypeScript

def own (room : Room) (property : String) : Expr := .path room.className property

def hook (room : Room) (name : String) : Stmt :=
  .expr (.call (.path room.customizationClass name) [])

/-- What group constructors take for a device: the identifier that a singleton has, else the slot
of the device. -/
def deviceRef (room : Room) (device : Device) : Expr :=
  if device.isSingleton then .member (room.own device.name) "id"
  else room.own device.identifier

def deviceRefs (room : Room) (devices : List Device) : Expr :=
  .array (devices.map room.deviceRef)

/-! ## Members of the class -/

def publicField (name type : String) (init : Option Expr) : Field :=
  ⟨.publicMember, name, type, init⟩

def fixedFields (room : Room) : List Field :=
  [publicField "roomName" "string" (some (.string room.shortName)),
    publicField "displayName" "string" (some (.string room.longName)),
    publicField "InitialRoomSettings" "RoomInitializationSettings"
      (some (.construct "RoomInitializationSettings"
        [room.own "roomName", .integer room.floor.toInt])),
    publicField "RoomSettings" "RoomSettings"
      (some (.construct "RoomSettings" [room.own "InitialRoomSettings"])),
    publicField "roomObject" room.className none]

/-- The field of a device: the object itself for a singleton, the identifier for a bus-addressed
device. -/
def deviceField? (room : Room) (device : Device) : Option Field :=
  let address := Expr.string (device.plan.address.getD "")
  if device.isSingleton then
    some (publicField device.name device.runtimeType
      (some (.construct device.runtimeType
        [address, .string device.longName, room.own "roomName"])))
  else if device.isBusAddressed then
    some ⟨.privateMember, device.identifier, "string", some address⟩
  else none

def fields (room : Room) : List Field :=
  room.fixedFields ++ room.devices.filterMap room.deviceField?

def busDevices (room : Room) : List Device := room.devices.filter (·.isBusAddressed)

def accessor (room : Room) (device : Device) : Getter where
  name := device.name
  type := device.runtimeType
  body := .cast (.call (.path "Devices" "get") [room.own device.identifier]) device.runtimeType

def accessors (room : Room) : List Getter := room.busDevices.map room.accessor

def mutator (room : Room) (device : Device) : Method where
  visibility := .publicMember
  name := device.mutator
  parameters := [("id", "string")]
  returns := "void"
  body := [.assign (room.own device.identifier) (.ident "id")]

def mutators (room : Room) : List Method := room.busDevices.map room.mutator

def overrides (room : Room) (device : Device) : List Stmt :=
  match device.plan.settings with
  | none => []
  | some settings => settings.members.map fun (key, value) =>
      .assign (.member (.member (room.own device.name) "settings") key) (.json value)

/-- The method that applies the settings overrides of the devices, between two hooks. -/
def setupMethod (room : Room) : Method where
  visibility := .publicMember
  name := "initialize"
  parameters := []
  returns := "void"
  body := room.hook "preInitialize" :: (room.devices.flatMap room.overrides ++
    [room.hook "postInitialize"])

/-! ## Groups -/

def groupMap : String := "Map<GroupType, BaseGroup>"

def groupKey : GroupKind → String
  | .window => "Window"
  | .presence => "Presence"
  | .light => "Light"
  | .buttons => "Taster"
  | .smoke => "Smoke"
  | .water => "Water"
  | .heating => "Heating"
  | .speaker => "Speaker"

def groupClass : GroupKind → String
  | .window => "WindowGroup"
  | .presence => "PresenceGroup"
  | .light => "LightGroup"
  | .buttons => "TasterGroup"
  | .smoke => "SmokeGroup"
  | .water => "WaterGroup"
  | .heating => "HeatGroup"
  | .speaker => "SpeakerGroup"

def setGroup (room : Room) (kind : GroupKind) (arguments : List Expr) : Stmt :=
  .expr (.call (.path "groups" "set")
    [.path "GroupType" (groupKey kind),
      .construct (groupClass kind) (room.own "roomName" :: arguments)])

def windowConst (id : UInt32) : String := "window" ++ toString id.toNat

def windowStmt (room : Room) (window : WindowAssembly) : Stmt :=
  let motor := match window.blindMotor with
    | some device => room.deviceRef device
    | none => .ident "undefined"
  .const (windowConst window.id) "Windows.Window"
    (.construct "Windows.Window"
      [room.own "roomName", room.deviceRefs window.handles, room.deviceRefs window.vibrations,
        motor, room.deviceRefs window.magnetContacts, .bool window.noShutterOnSunrise])

def groupStmts (room : Room) (groups : RoomGroups) : GroupKind → List Stmt
  | .window =>
      groups.windows.map room.windowStmt ++
        [room.setGroup .window
          [.array (groups.windows.map fun window => .ident (windowConst window.id))]]
  | .presence => groups.presence.toList.map fun group =>
      room.setGroup .presence [room.deviceRefs group.motion, room.deviceRefs group.presence]
  | .light => groups.light.toList.map fun group =>
      room.setGroup .light
        [room.deviceRefs group.lamps, room.deviceRefs group.plugs, room.deviceRefs group.leds,
          room.deviceRefs group.stripes]
  | .buttons => groups.buttons.toList.map fun devices =>
      room.setGroup .buttons [room.deviceRefs devices]
  | .smoke => groups.smoke.toList.map fun devices =>
      room.setGroup .smoke [room.deviceRefs devices]
  | .water => groups.water.toList.map fun devices =>
      room.setGroup .water [room.deviceRefs devices]
  | .heating => groups.heating.toList.map fun group =>
      room.setGroup .heating
        [room.deviceRefs group.heaters, room.deviceRefs group.temperature,
          room.deviceRefs group.humidity, room.deviceRefs group.airConditioners]
  | .speaker => groups.speakers.toList.map fun devices =>
      room.setGroup .speaker [room.deviceRefs devices]

/-- Tells a device the name of its room. -/
def writeback (room : Room) (device : Device) : Stmt :=
  .assign (.member (room.own device.name) "roomName") (room.own "displayName")

def groupsMethod (room : Room) (groups : RoomGroups) : Method where
  visibility := .privateMember
  name := "buildGroups"
  parameters := []
  returns := groupMap
  body :=
    .const "groups" groupMap (.construct groupMap []) ::
      (groups.kinds.flatMap (room.groupStmts groups) ++
        groups.roomNameWritebacks.map room.writeback ++
        [.returned (.ident "groups")])

/-! ## Constructor and registration -/

def roomOverrides (room : Room) : List Stmt :=
  match room.settings with
  | none => []
  | some settings => settings.members.map fun (key, value) =>
      .assign (.member (room.own "RoomSettings") key) (.json value)

def callSelf (method : String) : Stmt := .expr (.call (.member .self method) [])

def construction (room : Room) : List Stmt :=
  room.roomOverrides ++
    [.const "groups" groupMap (.call (room.own "buildGroups") []),
      .super [room.own "InitialRoomSettings", room.own "RoomSettings", .ident "groups"],
      .assign (room.own "roomObject") .self] ++
    (room.devices.filter (·.isManaged)).map (fun device =>
      .expr (.call (.member (.member .self "deviceCluster") "addByDeviceType")
        [room.own device.name])) ++
    [.expr (.call (room.own "initialize") []),
      callSelf "initializeBase",
      room.hook "postSuperInitialize",
      callSelf "persist"]

/-- Registers a managed device by its type, its mutator and its index. -/
def addDeviceStmt (room : Room) (device : Device) : Stmt :=
  .expr (.call (.path "deviceAddingSettings" "addDevice")
    ([.path "DeviceType" device.type, room.own device.mutator,
        .integer device.index.toNat] ++
      device.plan.customName.toList.map .string))

/-- The statements behind the class. -/
def trailing (room : Room) : List Stmt :=
  let managed :=
    if room.hasManagedDevices then
      .const "deviceAddingSettings" "RoomDeviceAddingSettings"
          (.construct "RoomDeviceAddingSettings" [room.own "roomName"]) ::
        ((room.devices.filter fun device => device.isManaged && device.isBusAddressed).map
            room.addDeviceStmt ++
          [.assign (.member (room.own "InitialRoomSettings") "deviceAddingSettings")
            (.ident "deviceAddingSettings")])
    else []
  managed ++
    [.expr (.call (.path "RoomService" "addInitialRoomSettings")
      [room.own "InitialRoomSettings"])]

/-! ## Imports and the whole module -/

/-- The runtime names that the module of a room uses, in the order of their text. -/
def runtimeNames (room : Room) (groups : RoomGroups) : List String :=
  let used :=
    ["BaseGroup", "GroupType", "RoomBase", "RoomInitializationSettings", "RoomService",
      "RoomSettings"] ++
    (if room.busDevices.isEmpty then [] else ["Devices"]) ++
    groups.kinds.map groupClass ++
    (if room.hasManagedDevices then ["DeviceType", "RoomDeviceAddingSettings"] else [])
  (SortedMap.ofList (used.map fun name => (name, ()))).keys

def deviceClasses (room : Room) : List DeviceClass :=
  DeviceClass.all.filter fun deviceClass =>
    room.devices.any (fun device => device.deviceClass = deviceClass)

def imports (room : Room) (groups : RoomGroups) (options : RenderOptions) : List Import :=
  room.deviceClasses.map (fun deviceClass =>
      .whole deviceClass.importName (options.classModule deviceClass)) ++
    [.named (room.runtimeNames groups) options.runtimeModule,
      .named [room.customizationClass] ("./" ++ room.customizationClass)]

def classDecl (room : Room) (groups : RoomGroups) : ClassDecl where
  name := room.className
  base := some "RoomBase"
  fields := room.fields
  getters := room.accessors
  methods := room.mutators ++ [room.setupMethod, room.groupsMethod groups]
  construction := some room.construction

def toModule (room : Room) (groups : RoomGroups) (options : RenderOptions) : Module where
  header := generatedHeader
  imports := room.imports groups options
  items := .classDecl (room.classDecl groups) :: room.trailing.map .stmt

end Homeplan.Room
