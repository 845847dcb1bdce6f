import Homeplan.Artifact

namespace Homeplan

/-! A sink that keeps its files in a map.

Paths with the same components name the same file.  A path may be set to fail, which it does before
anything else is looked at.
-/

/-- Files by the components of their path, with the path they were first stored under. -/
abbrev MemorySink.Files := SortedMap (List Path.Component) (Path × String)

structure MemorySink where
  files : MemorySink.Files
  failing : List (List Path.Component)
  /-- The artifacts taken so far, in order. -/
  log : List (Artifact × WriteOutcome)

namespace MemorySink

/-- Stores a text at a path; a file that is there keeps the path it was first stored under. -/
def Files.store (files : Files) (path : Path) (text : String) : Files :=
  files.alter path.components fun file => ((file.map (·.1)).getD path, text)

/-- A sink in which some files were stored in turn, and of which some paths fail. -/
def ofFiles (files : List (Path × String)) (failing : List Path) : MemorySink where
  files := files.foldl (fun stored (file : Path × String) => stored.store file.1 file.2) {}
  failing := failing.map Path.components
  log := []

def store (sink : MemorySink) (artifact : Artifact) : MemorySink :=
  { sink with
    files := sink.files.store artifact.path artifact.contents
    log := sink.log ++ [(artifact, .written)] }

/-- A create-only artifact keeps the file that is there; any other artifact replaces it. -/
def write : Sink (StateM MemorySink) := fun artifact => do
  let sink ← get
  if sink.failing.contains artifact.path.components then
    return .error ⟨artifact.path, "disk full"⟩
  else if artifact.policy = .createOnly && sink.files.contains artifact.path.components then
    set { sink with log := sink.log ++ [(artifact, WriteOutcome.kept)] }
    return .ok .kept
  else
    set (sink.store artifact)
    return .ok .written

end MemorySink

end Homeplan
