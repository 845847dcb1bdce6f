import Homeplan.Artifact
import Homeplan.FileSystem.Operations

namespace Homeplan

/-! A sink that writes artifacts into a directory tree, below a root path.

Missing folders are made first.  A create-only artifact is staged next to its place and moved there
in one step, so a failed write leaves nothing behind.
-/

namespace TreeSink

/-- Writes at a full path once its folder is there. -/
def place (path : Path) (artifact : Artifact) : FileSystem.Operation WriteOutcome := do
  let content := artifact.contents.toUTF8
  match artifact.policy with
  | .overwrite =>
      FileSystem.writeFile path content
      return .written
  | .createOnly =>
      if ← FileSystem.createFile path content then return .written else return .kept

/-- Reports the fault of an operation at a path. -/
def reporting (path : Path) (operation : FileSystem.Operation α) :
    StateM FileSystem (Except SinkError α) := do
  match ← operation.run with
  | .ok value => return .ok value
  | .error fault => return .error ⟨path, fault.message⟩

def write (root : Path) : Sink (StateM FileSystem) := fun artifact => do
  let path := root.append artifact.path
  match path.parent? with
  | none => reporting path (place path artifact)
  | some parent =>
      match ← reporting parent (FileSystem.ensureFolders parent) with
      | .error error => return .error error
      | .ok _ => reporting path (place path artifact)

end TreeSink

end Homeplan
