import Homeplan.Artifact.Naming
import Homeplan.TypeScript.Syntax

namespace Homeplan.Room

/-! The customization stub of a room: a class with one empty method per hook. -/

open TypeScript

/-- The hooks and the comment that each of them starts with. -/
def hooks : List (String × String) :=
  [("preInitialize", "Runs before device settings overrides are applied."),
    ("postInitialize", "Runs after device settings overrides are applied."),
    ("postSuperInitialize", "Runs once the room base is fully initialized.")]

def hookMethod (name comment : String) : Method where
  visibility := .publicMember
  name := name
  parameters := []
  returns := "void"
  body := [.comment comment]

def toStub (room : Room) : Module where
  header :=
    ["Customization hooks for room " ++ room.longName ++ ".",
      "Created once by roomgen and never overwritten afterwards."]
  imports := []
  items := [.classDecl {
    name := room.customizationClass
    base := none
    fields := []
    getters := []
    methods := hooks.map fun (name, comment) => hookMethod name comment
    construction := none }]

end Homeplan.Room
