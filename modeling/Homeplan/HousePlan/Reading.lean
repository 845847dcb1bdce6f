import Homeplan.Document.Reading
import Homeplan.HousePlan

namespace Homeplan

/-! Reading house plans from documents.

A draft holds the fields met so far; a field that is still empty when its record ends takes its
default, which the required fields never need.
-/

open Document Document.Reader

namespace Extras

structure Draft where
  noShutterOnSunrise : Option Bool := none

def fields : List (RecordField Draft) :=
  [field "no_shutter_on_sunrise" false (·.noShutterOnSunrise)
    (fun draft value => { draft with noShutterOnSunrise := some value }) Reader.bool]

def Draft.finish (draft : Draft) : Extras where
  noShutterOnSunrise := draft.noShutterOnSunrise.getD false

def reader : Reader Extras := fun rules document => do
  let draft ← record "DeviceExtras" fields {} rules document
  return draft.finish

end Extras

namespace DevicePlan

structure Draft where
  type : Option String := none
  index : Option UInt32 := none
  address : Option (Option String) := none
  customName : Option (Option String) := none
  windowId : Option (Option UInt32) := none
  includeInGroup : Option Bool := none
  extra : Option (Option Extras) := none
  settings : Option (Option Settings) := none

def fields : List (RecordField Draft) :=
  [field "type" true (·.type)
      (fun draft value => { draft with type := some value }) Reader.text,
    field "index" true (·.index)
      (fun draft value => { draft with index := some value }) Reader.unsigned,
    field "address" false (·.address)
      (fun draft value => { draft with address := some value }) (optional Reader.text),
    field "custom_name" false (·.customName)
      (fun draft value => { draft with customName := some value }) (optional Reader.text),
    field "window_id" false (·.windowId)
      (fun draft value => { draft with windowId := some value }) (optional Reader.unsigned),
    field "include_in_group" false (·.includeInGroup)
      (fun draft value => { draft with includeInGroup := some value }) Reader.bool,
    field "extra" false (·.extra)
      (fun draft value => { draft with extra := some value }) (optional Extras.reader),
    field "settings" false (·.settings)
      (fun draft value => { draft with settings := some value }) (optional Reader.settings)]

def Draft.finish (draft : Draft) : DevicePlan where
  type := draft.type.getD ""
  index := draft.index.getD 0
  address := draft.address.getD none
  customName := draft.customName.getD none
  windowId := draft.windowId.getD none
  includeInGroup := draft.includeInGroup.getD false
  extra := draft.extra.getD none
  settings := draft.settings.getD none

def reader : Reader DevicePlan := fun rules document => do
  let draft ← record "DeviceDefinition" fields {} rules document
  return draft.finish

end DevicePlan

namespace RoomPlan

structure Draft where
  shortName : Option String := none
  longName : Option String := none
  floor : Option Int32 := none
  devices : Option (List DevicePlan) := none
  settings : Option (Option Settings) := none

def fields : List (RecordField Draft) :=
  [field "short_name" true (·.shortName)
      (fun draft value => { draft with shortName := some value }) Reader.text,
    field "long_name" true (·.longName)
      (fun draft value => { draft with longName := some value }) Reader.text,
    field "floor" true (·.floor)
      (fun draft value => { draft with floor := some value }) Reader.signed,
    field "devices" false (·.devices)
      (fun draft value => { draft with devices := some value }) (list DevicePlan.reader),
    field "settings" false (·.settings)
      (fun draft value => { draft with settings := some value }) (optional Reader.settings)]

def Draft.finish (draft : Draft) : RoomPlan where
  shortName := draft.shortName.getD ""
  longName := draft.longName.getD ""
  floor := draft.floor.getD 0
  devices := draft.devices.getD []
  settings := draft.settings.getD none

def reader : Reader RoomPlan := fun rules document => do
  let draft ← record "RoomDefinition" fields {} rules document
  return draft.finish

end RoomPlan

namespace CustomType

structure Draft where
  id : Option String := none
  displayName : Option String := none
  className : Option String := none
  capabilities : Option (List Capability) := none

def capability : Reader Capability :=
  choice (Capability.all.map Capability.name) Capability.ofName?

def fields : List (RecordField Draft) :=
  [field "id" true (·.id)
      (fun draft value => { draft with id := some value }) Reader.text,
    field "display_name" true (·.displayName)
      (fun draft value => { draft with displayName := some value }) Reader.text,
    field "class" true (·.className)
      (fun draft value => { draft with className := some value }) Reader.text,
    field "capabilities" false (·.capabilities)
      (fun draft value => { draft with capabilities := some value }) (list capability)]

def Draft.finish (draft : Draft) : CustomType where
  id := draft.id.getD ""
  displayName := draft.displayName.getD ""
  className := draft.className.getD ""
  capabilities := draft.capabilities.getD []

def reader : Reader CustomType := fun rules document => do
  let draft ← record "CustomDeviceType" fields {} rules document
  return draft.finish

end CustomType

namespace HousePlan

structure Draft where
  customTypes : Option (List CustomType) := none
  rooms : Option (List RoomPlan) := none
  detached : Option (SortedMap String (List DevicePlan)) := none

def fields : List (RecordField Draft) :=
  [field "device_types" false (·.customTypes)
      (fun draft value => { draft with customTypes := some value }) (list CustomType.reader),
    field "rooms" false (·.rooms)
      (fun draft value => { draft with rooms := some value }) (list RoomPlan.reader),
    field "devices" false (·.detached)
      (fun draft value => { draft with detached := some value })
      (dictionary (list DevicePlan.reader))]

def Draft.finish (draft : Draft) : HousePlan where
  customTypes := draft.customTypes.getD []
  rooms := draft.rooms.getD []
  detached := draft.detached.getD {}

def reader : Reader HousePlan := fun rules document => do
  let draft ← record "HouseDefinition" fields {} rules document
  return draft.finish

end HousePlan

end Homeplan
