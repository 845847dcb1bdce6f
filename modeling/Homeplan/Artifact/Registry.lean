import Homeplan.Artifact.Naming
import Homeplan.TypeScript.Syntax

namespace Homeplan

/-! The registry: one module that imports and registers every room. -/

open TypeScript

namespace Room

def registryImport (room : Room) : Import :=
  .named [room.className] ("./" ++ room.slug ++ "/" ++ room.className)

/-- The registration of the class of a room under its name. -/
def registration (room : Room) : Stmt :=
  .expr (.call (.path "RoomImportEnforcer" "addRoomConstructor")
    [.path room.className "roomName", .ident room.className])

end Room

def registryModule (rooms : List Room) (options : RenderOptions) : Module where
  header := generatedHeader
  imports := .named ["RoomImportEnforcer"] options.runtimeModule :: rooms.map Room.registryImport
  items := rooms.map fun room => .stmt room.registration

end Homeplan
