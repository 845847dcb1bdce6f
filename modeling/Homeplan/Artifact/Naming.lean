import Homeplan.RoomGroups

namespace Homeplan

/-! Names and places in generated code: the options, the modules of device classes, and the classes
of a room. -/

/-- What shapes the generated code. -/
structure RenderOptions where
  /-- The module that runtime types are imported from. -/
  runtimeModule : String := "hoffmation-base"
  /-- The registry, relative to the output directory. -/
  registryFile : String := "RoomImportEnforcer.generated.ts"
deriving DecidableEq, Repr

namespace DeviceClass

/-- The name that the module of the class is imported under. -/
def importName : DeviceClass → String
  | .hmIp => "HmIP"
  | .zigbee => "Zigbee"
  | .shutter => "Shelly"
  | .window => "Windows"
  | .speaker => "Sonos"
  | .airConditioner => "Daikin"
  | .wled => "Wled"

/-- The module of the class below the device modules of the runtime. -/
def moduleName : DeviceClass → String
  | .hmIp => "hmIPDevices"
  | .zigbee => "zigbee"
  | .shutter => "shelly"
  | .window => "groups/window"
  | .speaker => "sonos"
  | .airConditioner => "daikin"
  | .wled => "wled"

end DeviceClass

namespace RenderOptions

def classModule (options : RenderOptions) (deviceClass : DeviceClass) : String :=
  options.runtimeModule ++ "/lib/server/devices/" ++ deviceClass.moduleName

end RenderOptions

/-- The comment above every module that a run overwrites. -/
def generatedHeader : List String :=
  ["This file is generated by roomgen. Do not edit it by hand:",
    "every run overwrites it. Put custom logic in the customization file."]

def Device.runtimeType (device : Device) : String :=
  device.deviceClass.importName ++ "." ++ device.type

namespace Room

def customizationClass (room : Room) : String := room.className ++ "Customization"

end Room

end Homeplan
