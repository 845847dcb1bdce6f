import Homeplan.FileSystem

namespace Homeplan.FileSystem

/-! Reading, writing and removing files, and making folders. -/

/-- An operation that may change the files, also when it fails. -/
abbrev Operation (α : Type) := ExceptT FileFault (StateM FileSystem) α

/-! ## Folders -/

def makeFolder (system : FileSystem) (steps : List String) : Except FileFault FileSystem := do
  match ← system.target steps with
  | .standing _ => .error .alreadyExists
  | .entry inside name =>
      match ← system.entry? inside name with
      | some _ => .error .alreadyExists
      | none => .ok (system.putEntry inside name (.folder []))

def leadsToFolder (system : FileSystem) (steps : List String) : Bool :=
  match system.walkToFolder steps with
  | .ok _ => true
  | .error _ => false

def ensureFolder (steps : List String) : Operation Unit := do
  let system ← get
  match system.makeFolder steps with
  | .ok changed => set changed
  | .error fault => if system.leadsToFolder steps then pure () else throw fault

/-- Makes a folder and the folders above it that are missing.  The steps are given backwards. -/
def ensureFoldersReversed : List String → Operation Unit
  | [] => pure ()
  | last :: before => do
      let system ← get
      let steps := (last :: before).reverse
      match system.makeFolder steps with
      | .ok changed => set changed
      | .error .notFound => do
          ensureFoldersReversed before
          ensureFolder steps
      | .error fault => if system.leadsToFolder steps then pure () else throw fault

def ensureFolders (path : Path) : Operation Unit := do
  match path.refusal? with
  | some fault => throw fault
  | none =>
      let system ← get
      ensureFoldersReversed (system.steps path).reverse

/-! ## Files -/

/-- Writes a file, in place of the file that may be there. -/
def writeFile (path : Path) (content : ByteArray) : Operation Unit := do
  let system ← get
  match ← system.locate path with
  | (.standing _, _) => throw .isDirectory
  | (.entry _ _, true) => throw .isDirectory
  | (.entry inside name, false) =>
      match ← system.entry? inside name with
      | some (.folder _) => throw .isDirectory
      | _ => set (system.putEntry inside name (.file content))

/-- The folder that a path leads into, as a path of its own. -/
def stagingFolder (path : Path) : Path :=
  match path.parent? with
  | some parent => if parent.text.isEmpty then ⟨"."⟩ else parent
  | none => ⟨"."⟩

/-- Writes a file next to a path, under a name that is not in use. -/
def stage (path : Path) (content : ByteArray) : Operation FileTree.Position := do
  let system ← get
  let inside ← system.walkToFolder (system.steps (stagingFolder path))
  let name := system.freshName inside path.fileName?.toList
  set (system.putEntry inside name (.file content))
  return inside ++ [name]

/-- Moves a file to a path where nothing stands yet, in one step that cannot be interrupted. -/
def moveIntoPlace (staged : FileTree.Position) (path : Path) : Operation Unit := do
  let system ← get
  match ← system.locate path with
  | (.standing _, _) => throw .alreadyExists
  | (.entry inside name, slash) =>
      match ← system.entry? inside name with
      | some _ => throw .alreadyExists
      | none =>
          if slash then throw .notDirectory
          set (system.moveEntry staged inside name)

def discard (staged : FileTree.Position) : Operation Unit :=
  modify fun system => { system with root := system.root.remove staged }

/-- Writes a file only where nothing stands.  It is complete before it is moved into its place, and
nothing of it is left if it cannot be moved.  Tells whether it was written. -/
def createFile (path : Path) (content : ByteArray) : Operation Bool := do
  let staged ← stage path content
  try
    moveIntoPlace staged path
    pure true
  catch fault =>
    discard staged
    if fault = .alreadyExists then pure false else throw fault

def readBytes (system : FileSystem) (path : Path) : Except FileFault ByteArray := do
  match ← system.locate path with
  | (.standing _, _) => .error .isDirectory
  | (.entry inside name, slash) =>
      match ← system.entry? inside name with
      | none => .error .notFound
      | some (.folder _) => .error .isDirectory
      | some (.file content) => if slash then .error .notDirectory else .ok content

def readText (system : FileSystem) (path : Path) : Except FileFault String := do
  let content ← system.readBytes path
  match String.fromUTF8? content with
  | some text => .ok text
  | none => .error .invalidText

def removeAll (path : Path) : Operation Unit := do
  let system ← get
  let position ← system.walk (system.steps path)
  set { system with root := system.root.remove position }

end Homeplan.FileSystem
