import Homeplan.Path

namespace Homeplan

/-! Artifacts, the sinks that take them, and the run that delivers them one after the other. -/

/-- What happens to an artifact whose path exists already. -/
inductive WritePolicy where
  /-- Fully derived output is always replaced. -/
  | overwrite
  /-- Output meant for editing is written only when nothing exists yet. -/
  | createOnly
deriving DecidableEq, Repr

inductive WriteOutcome where
  | written
  /-- A create-only artifact existed already and was left untouched. -/
  | kept
deriving DecidableEq, Repr

/-- One file to produce, relative to the output directory. -/
structure Artifact where
  path : Path
  contents : String
  policy : WritePolicy
deriving DecidableEq, Repr

/-- An artifact that could not be written, and what the sink says about it. -/
structure SinkError where
  path : Path
  cause : String
deriving DecidableEq, Repr

def SinkError.message (error : SinkError) : String :=
  "failed to write artifact " ++ error.path.text

/-- Takes one artifact, honouring its policy. -/
abbrev Sink (m : Type → Type) := Artifact → m (Except SinkError WriteOutcome)

/-- What a delivery did: the paths written and the paths kept, in order. -/
structure Delivery where
  written : List Path
  kept : List Path
deriving DecidableEq, Repr

namespace Delivery

def empty : Delivery := ⟨[], []⟩

def record (delivery : Delivery) (path : Path) : WriteOutcome → Delivery
  | .written => { delivery with written := delivery.written ++ [path] }
  | .kept => { delivery with kept := delivery.kept ++ [path] }

end Delivery

/-- Hands artifacts to a sink in their order, up to the first that cannot be written. -/
def deliver [Monad m] (sink : Sink m) (done : Delivery) :
    List Artifact → m (Except SinkError Delivery)
  | [] => pure (.ok done)
  | artifact :: rest => do
      match ← sink artifact with
      | .error error => pure (.error error)
      | .ok outcome => deliver sink (done.record artifact.path outcome) rest

end Homeplan
