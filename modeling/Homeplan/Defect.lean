namespace Homeplan

/-! What can be wrong with a house plan.

Every defect names the offending entry: a type, a room key, an index or a window.
-/

inductive RoomName where
  | short
  | long
deriving DecidableEq, Repr

def RoomName.description : RoomName → String
  | .short => "room short name"
  | .long => "room long name"

inductive Defect where
  /-- A device of a type that the catalog does not know; `device` locates it. -/
  | unknownDeviceType (type device : String)
  | unsupportedDeviceClass (type className : String)
  | duplicateDeviceType (type : String)
  | emptyName (name : RoomName)
  /-- A short name with a character that a class or folder name cannot hold. -/
  | invalidRoomName (room : String)
  /-- A compiled device of a type that the catalog of the room does not know. -/
  | unknownTypeInRoom (room type : String)
  | duplicateDevice (room type : String) (index : UInt32)
  /-- A device that would share its generated members with an earlier one. -/
  | duplicateIdentifier (room identifier type : String) (index : UInt32)
  | missingWindowFrame (room : String) (window : UInt32)
  | ambiguousWindowFrame (room : String) (window : UInt32) (count : Nat)
  | ambiguousBlindMotor (room : String) (window : UInt32) (count : Nat)
  /-- Detached devices under a key that no room has. -/
  | unknownRoom (room : String)
  | duplicateRoom (room : String)
  /-- Window frames are virtual and carry no settings. -/
  | frameSettingsUnsupported (room device : String)
deriving DecidableEq, Repr

namespace Defect

def message : Defect → String
  | .unknownDeviceType type device =>
      "device type `" ++ type ++ "` of device `" ++ device ++ "` is not in the catalog"
  | .unsupportedDeviceClass type className =>
      "device type `" ++ type ++ "` uses unsupported device class `" ++ className ++ "`"
  | .duplicateDeviceType type => "device type `" ++ type ++ "` is already defined"
  | .emptyName name => name.description ++ " must not be empty"
  | .invalidRoomName room =>
      "room short name `" ++ room ++ "` may only contain letters, digits and underscores"
  | .unknownTypeInRoom room type =>
      "room `" ++ room ++ "` declares a device of unknown type `" ++ type ++ "`"
  | .duplicateDevice room type index =>
      "room `" ++ room ++ "` already has a `" ++ type ++ "` device at index " ++
        toString index.toNat
  | .duplicateIdentifier room identifier type index =>
      "`" ++ type ++ "` device at index " ++ toString index.toNat ++ " in room `" ++ room ++
        "` reuses identifier `" ++ identifier ++ "`"
  | .missingWindowFrame room window =>
      "window " ++ toString window.toNat ++ " in room `" ++ room ++ "` has no frame device"
  | .ambiguousWindowFrame room window count =>
      "window " ++ toString window.toNat ++ " in room `" ++ room ++ "` has " ++ toString count ++
        " frame devices, expected exactly one"
  | .ambiguousBlindMotor room window count =>
      "window " ++ toString window.toNat ++ " in room `" ++ room ++ "` has " ++ toString count ++
        " blind motors, expected at most one"
  | .unknownRoom room => "devices reference room `" ++ room ++ "` which is not declared"
  | .duplicateRoom room => "room `" ++ room ++ "` is declared more than once"
  | .frameSettingsUnsupported room device =>
      "window frame `" ++ device ++ "` in room `" ++ room ++ "` cannot carry device settings"

end Defect

end Homeplan
