import Homeplan.FileFault
import Homeplan.FileTree
import Homeplan.Path

namespace Homeplan

/-! A directory tree with a working directory, and the places in it that paths lead to.

There are no links, and nobody else changes the tree.  A path therefore fails for one of three
reasons: the path as written is refused, a name in it is too long, or the tree has another shape.
-/

namespace Path

/-- The most bytes that a path may have. -/
def sizeLimit : Nat := 4095

/-- The most bytes that one name in a path may have. -/
def nameSizeLimit : Nat := 255

/-- Why a path is refused before any tree is looked at. -/
def refusal? (path : Path) : Option FileFault :=
  if path.text.toList.contains '\x00' then some .invalidPath
  else if sizeLimit < path.text.utf8ByteSize then some .nameTooLong
  else none

/-- The steps of a path through a tree: its names and double dots. -/
def steps (path : Path) : List String :=
  ((split path.text.toList).filter (counts false)).map String.ofList

/-- How a path ends, as far as its steps do not show it. -/
inductive Ending where
  | nothing
  | plain
  | slash
  | dot
deriving DecidableEq, Repr

def ending (path : Path) : Ending :=
  let parts := split path.text.toList
  if path.text.isEmpty then .nothing
  else if (parts.filter (· ≠ [])).getLast? = some ['.'] then .dot
  else if parts.getLast? = some [] then .slash
  else .plain

end Path

/-- A tree, and the way from its top to the folder where relative paths start. -/
structure FileSystem where
  root : FileTree
  working : FileTree.Position

namespace FileTree

/-- The position that steps lead to.  A double dot goes back to the folder above, which at the top
is the top itself; `trail` holds the folders passed on the way, nearest first, each with the name
taken in it. -/
def follow : List (String × FileTree) → FileTree → List String → Except FileFault Position
  | trail, _, [] => .ok (trail.map (·.1)).reverse
  | _, .file _, _ :: _ => .error .notDirectory
  | trail, .folder entries, step :: rest =>
      if step = ".." then
        match trail with
        | [] => follow [] (.folder entries) rest
        | (_, above) :: passed => follow passed above rest
      else if Path.nameSizeLimit < step.utf8ByteSize then .error .nameTooLong
      else
        match entries.lookup step with
        | some entry => follow ((step, .folder entries) :: trail) entry rest
        | none => .error .notFound

end FileTree

namespace FileSystem

/-- The steps to a path from the top of the tree. -/
def steps (system : FileSystem) (path : Path) : List String :=
  if path.isAbsolute then path.steps else system.working ++ path.steps

def walk (system : FileSystem) (steps : List String) : Except FileFault FileTree.Position :=
  FileTree.follow [] system.root steps

def walkToFolder (system : FileSystem) (steps : List String) :
    Except FileFault FileTree.Position := do
  let position ← system.walk steps
  if system.root.isFolderAt position then return position else .error .notDirectory

/-- Where steps lead for an operation that may create what they name. -/
inductive Target where
  /-- A folder that is there already: the top, a dot or a double dot. -/
  | standing (position : FileTree.Position)
  /-- A name in a folder that is there. -/
  | entry (inside : FileTree.Position) (name : String)

def target (system : FileSystem) (steps : List String) : Except FileFault Target :=
  match steps.getLast? with
  | none => .ok (.standing [])
  | some ".." => do
      let position ← system.walk steps
      return .standing position
  | some name => do
      let inside ← system.walkToFolder steps.dropLast
      return .entry inside name

/-- Where a path leads, and whether a slash ends it. -/
def locate (system : FileSystem) (path : Path) : Except FileFault (Target × Bool) :=
  match path.refusal? with
  | some fault => .error fault
  | none =>
      match path.ending with
      | .nothing => .error .notFound
      | .dot => do
          let position ← system.walkToFolder (system.steps path)
          return (.standing position, false)
      | .slash => do
          let place ← system.target (system.steps path)
          return (place, true)
      | .plain => do
          let place ← system.target (system.steps path)
          return (place, false)

/-- What stands under a name in a folder.  A name that is too long cannot be asked for. -/
def entry? (system : FileSystem) (inside : FileTree.Position) (name : String) :
    Except FileFault (Option FileTree) :=
  if Path.nameSizeLimit < name.utf8ByteSize then .error .nameTooLong
  else .ok (system.root.find? (inside ++ [name]))

/-- Puts something under a name in a folder that is there. -/
def putEntry (system : FileSystem) (inside : FileTree.Position) (name : String)
    (entry : FileTree) : FileSystem :=
  { system with root := system.root.put (inside ++ [name]) entry }

def stagingName (number : Nat) : String := ".tmp" ++ toString number

/-- A name for a file that is staged in a folder: neither reserved nor taken there. -/
def freshName (system : FileSystem) (inside : FileTree.Position) (reserved : List String) : String :=
  let used := reserved ++ (system.root.entriesAt inside).map (·.1)
  let unused := (List.range (used.length + 1)).find? fun number => stagingName number ∉ used
  stagingName (unused.getD 0)

/-- Moves what stands at a position to a name in a folder that is there. -/
def moveEntry (system : FileSystem) (source inside : FileTree.Position) (name : String) :
    FileSystem :=
  match system.root.find? source with
  | some entry => { system with root := (system.root.remove source).put (inside ++ [name]) entry }
  | none => system

def contents (system : FileSystem) : List (String × Option ByteArray) :=
  match system.root.find? system.working with
  | some folder => folder.contents
  | none => []

end FileSystem

end Homeplan
