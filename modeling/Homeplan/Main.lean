import Homeplan.Run

namespace Homeplan

/-! The program on the files, the environment and the arguments that it is started with. -/

def faultOf : IO.Error → FileFault
  | .noFileOrDirectory .. => .notFound
  | .alreadyExists .. => .alreadyExists
  | error => .other (toString error)

def attempt (action : IO α) : IO (Except FileFault α) := do
  try
    let value ← action
    return .ok value
  catch error => return .error (faultOf error)

def readTextFile (path : Path) : IO (Except FileFault String) := do
  match ← attempt (IO.FS.readBinFile path.text) with
  | .error fault => return .error fault
  | .ok content =>
      match String.fromUTF8? content with
      | some text => return .ok text
      | none => return .error .invalidText

/-- The folder that a path leads into, as a path of its own. -/
def folderOf (path : Path) : Path :=
  (path.parent?.filter fun parent => !parent.text.isEmpty).getD ⟨"."⟩

/-- Opens a new file in a folder, under the first numbered name that is not in use. -/
def openStaged (folder : Path) (number : Nat) :
    Nat → IO (Except FileFault (IO.FS.Handle × Path))
  | 0 => return .error .alreadyExists
  | tries + 1 => do
      let staged := folder.append ⟨".tmp" ++ toString number⟩
      match ← attempt (IO.FS.Handle.mk staged.text .writeNew) with
      | .ok handle => return .ok (handle, staged)
      | .error .alreadyExists => openStaged folder (number + 1) tries
      | .error fault => return .error fault

/-- Writes a file only where nothing stands.  It is complete before it gets its name, and nothing of
it is left under another one. -/
def createTextFile (path : Path) (text : String) : IO (Except FileFault WriteOutcome) := do
  match ← openStaged (folderOf path) 0 65536 with
  | .error fault => return .error fault
  | .ok (handle, staged) =>
      let placed ← attempt do
        handle.putStr text
        handle.flush
        -- A link is refused where something stands, in one step with the check.
        IO.FS.hardLink staged.text path.text
      let _ ← attempt (IO.FS.removeFile staged.text)
      match placed with
      | .ok _ => return .ok .written
      | .error .alreadyExists => return .ok .kept
      | .error fault => return .error fault

def placeFile (path : Path) (artifact : Artifact) : IO (Except FileFault WriteOutcome) := do
  match artifact.policy with
  | .overwrite =>
      let written ← attempt (IO.FS.writeFile path.text artifact.contents)
      return written.map fun _ => .written
  | .createOnly => createTextFile path artifact.contents

/-- Writes artifacts below a root path, making the folders that are missing. -/
def fileSink (root : Path) : Sink IO := fun artifact => do
  let path := root.append artifact.path
  let parent := folderOf path
  match ← attempt (IO.FS.createDirAll parent.text) with
  | .error fault => return .error ⟨parent, fault.message⟩
  | .ok _ =>
      let outcome ← placeFile path artifact
      return outcome.mapError fun fault => ⟨path, fault.message⟩

def fileStorage : Storage IO where
  readText := readTextFile
  sink := fileSink

/-- The variables that a configuration heeds, as far as they are set. -/
def readEnvironment : IO (List (String × String)) :=
  Config.overrides.filterMapM fun (name, _) => do
    let value ← IO.getEnv name
    return value.map (name, ·)

end Homeplan

open Homeplan in
def main (arguments : List String) : IO UInt32 := do
  let environment ← readEnvironment
  let outcome ← invoke fileStorage (fun name => environment.lookup name) arguments
  IO.print outcome.output
  match outcome.complaint with
  | some complaint => IO.eprintln ("error: " ++ complaint)
  | none => pure ()
  return UInt32.ofNat outcome.exitCode
