import Homeplan.Artifact
import Homeplan.Artifact.Registry
import Homeplan.Artifact.RoomModule
import Homeplan.Artifact.Stub
import Homeplan.House
import Homeplan.TypeScript.Text

namespace Homeplan

/-! One full run: from a house plan to artifacts in a sink. -/

namespace Room

def modulePath (room : Room) : Path :=
  Path.append ⟨room.slug⟩ ⟨room.className ++ ".ts"⟩

def stubPath (room : Room) : Path :=
  Path.append ⟨room.slug⟩ ⟨room.customizationClass ++ ".ts"⟩

def moduleArtifact (room : Room) (groups : RoomGroups) (options : RenderOptions) : Artifact where
  path := room.modulePath
  contents := (room.toModule groups options).text
  policy := .overwrite

def stubArtifact (room : Room) : Artifact where
  path := room.stubPath
  contents := room.toStub.text
  policy := .createOnly

/-- The module and the stub of a room, if its groups can be assembled. -/
def artifacts (options : RenderOptions) (room : Room) : Except Defect (List Artifact) := do
  let groups ← RoomGroups.ofRoom room
  return [room.moduleArtifact groups options, room.stubArtifact]

end Room

def registryArtifact (rooms : List Room) (options : RenderOptions) : Artifact where
  path := ⟨options.registryFile⟩
  contents := (registryModule rooms options).text
  policy := .overwrite

/-- Every artifact of a house: for each room its module and its stub, then the registry. -/
def House.artifacts (house : House) (options : RenderOptions) : Except Defect (List Artifact) := do
  let perRoom ← house.rooms.mapM (Room.artifacts options)
  return perRoom.flatten ++ [registryArtifact house.rooms options]

inductive GenerationError where
  | invalid (defect : Defect)
  | sink (error : SinkError)
deriving DecidableEq, Repr

def GenerationError.message : GenerationError → String
  | .invalid defect => defect.message
  | .sink error => error.message

/-- The errors below the first one, outermost first. -/
def GenerationError.causes : GenerationError → List String
  | .invalid _ => []
  | .sink error => [error.cause]

/-- What a run did: the keys of its rooms and the delivery of its artifacts. -/
structure Report where
  rooms : List String
  delivery : Delivery
deriving DecidableEq, Repr

/-- Compiles a plan and plans its artifacts; both are complete before anything is written. -/
def HousePlan.artifacts (plan : HousePlan) (options : RenderOptions) :
    Except Defect (List String × List Artifact) := do
  let house ← House.compile plan
  let artifacts ← house.artifacts options
  return (house.rooms.map (·.shortName), artifacts)

/-- Compiles a plan and delivers its artifacts to a sink. -/
def generate [Monad m] (sink : Sink m) (options : RenderOptions) (plan : HousePlan) :
    m (Except GenerationError Report) :=
  match plan.artifacts options with
  | .error defect => pure (.error (.invalid defect))
  | .ok (rooms, artifacts) => do
      match ← deliver sink .empty artifacts with
      | .error error => pure (.error (.sink error))
      | .ok delivery => pure (.ok ⟨rooms, delivery⟩)

end Homeplan
