import Homeplan.Artifact.MemorySink
import Homeplan.Proofs.Artifact.Delivery
import Homeplan.Proofs.Room.Paths
import Homeplan.Proofs.SortedMap

namespace Homeplan

/-! Stubs that were edited by hand outlive every run. -/

/-- The artifact leaves a file at this place alone: it does not overwrite it. -/
def Artifact.Spares (artifact : Artifact) (place : List Path.Component) : Prop :=
  artifact.policy = .overwrite → artifact.path.components ≠ place

/-- The registry is written right below the output directory. -/
def RenderOptions.RegistryIsPlain (options : RenderOptions) : Prop :=
  (⟨options.registryFile⟩ : Path).components.length = 1

/-- Nothing that is planned for a house overwrites the stub of a room, of this house or of
another one. -/
theorem House.artifacts_spare_stub {options : RenderOptions} (plain : options.RegistryIsPlain)
    {plan : HousePlan} {house : House} (compiled : House.compile plan = .ok house)
    {artifacts : List Artifact} (planned : house.artifacts options = .ok artifacts)
    {artifact : Artifact} (member : artifact ∈ artifacts) {room : Room}
    (valid : Room.isValidName room.shortName = true) :
    artifact.Spares room.stubPath.components := by
  intro overwrites
  rcases House.mem_artifacts planned member with ofRoom | registry
  · obtain ⟨other, inHouse, groups, isModule | isStub⟩ := ofRoom
    · subst isModule
      exact Room.modulePath_ne_stubPath (House.valid_of_compile compiled inHouse) valid
    · subst isStub
      contradiction
  · subst registry
    intro same
    have lengths := congrArg List.length same
    rw [Room.stubPath_components valid] at lengths
    have two : 1 = 2 := plain.symm.trans lengths
    contradiction

namespace MemorySink

theorem write_run (artifact : Artifact) (sink : MemorySink) :
    (write artifact).run sink =
      if sink.failing.contains artifact.path.components then
        (.error ⟨artifact.path, "disk full"⟩, sink)
      else if artifact.policy = .createOnly && sink.files.contains artifact.path.components then
        (.ok .kept, { sink with log := sink.log ++ [(artifact, .kept)] })
      else (.ok .written, sink.store artifact) := by
  rw [write, StateT.run_bind, StateT.run_get, pure_bind]
  by_cases fails : sink.failing.contains artifact.path.components = true
  · rw [if_pos fails, if_pos fails]
    rfl
  · rw [if_neg fails, if_neg fails]
    split <;> rfl

/-- One write leaves a file alone that its artifact spares. -/
theorem write_keeps {artifact : Artifact} {place : List Path.Component}
    (spares : artifact.Spares place) {sink : MemorySink} {file : Path × String}
    (stored : sink.files.get? place = some file) :
    ((write artifact).run sink).2.files.get? place = some file := by
  have present : sink.files.contains place = true := sink.files.contains_iff.mpr ⟨file, stored⟩
  rw [write_run]
  split
  · exact stored
  · split
    · exact stored
    · rename_i notKept
      have elsewhere : place ≠ artifact.path.components := by
        intro same
        cases policy : artifact.policy with
        | overwrite => exact spares policy same.symm
        | createOnly => exact notKept (by simp [policy, ← same, present])
      rw [store, Files.store, SortedMap.get?_alter, if_neg elsewhere]
      exact stored

/-- A run on a sink, with the paths that fail while it goes on. -/
structure Attempt where
  plan : HousePlan
  options : RenderOptions
  failing : List (List Path.Component)

/-- The sink after a run, whether or not the run succeeded. -/
def afterAttempt (sink : MemorySink) (attempt : Attempt) : MemorySink :=
  ((generate write attempt.options attempt.plan).run { sink with failing := attempt.failing }).2

theorem afterAttempt_keeps_stub {room : Room} (valid : Room.isValidName room.shortName = true)
    {attempt : Attempt} (plain : attempt.options.RegistryIsPlain) {sink : MemorySink}
    {file : Path × String} (stored : sink.files.get? room.stubPath.components = some file) :
    (sink.afterAttempt attempt).files.get? room.stubPath.components = some file := by
  refine generate_invariant write
    (fun state => state.files.get? room.stubPath.components = some file) ?_ stored
  intro rooms artifacts planned artifact member state holds
  obtain ⟨house, compiled, housePlanned⟩ := HousePlan.artifacts_eq_ok planned
  exact write_keeps (House.artifacts_spare_stub plain compiled housePlanned member valid) holds

/-- A stub that is there stays as it is through any runs, whatever houses they are for, and
wherever they fail. -/
theorem stub_survives_attempts {plan : RoomPlan} {room : Room}
    (accepted : Room.ofPlan plan = .ok room) {sink : MemorySink} {file : Path × String}
    (stored : sink.files.get? room.stubPath.components = some file) (attempts : List Attempt)
    (plain : ∀ attempt ∈ attempts, attempt.options.RegistryIsPlain) :
    (attempts.foldl afterAttempt sink).files.get? room.stubPath.components = some file := by
  induction attempts generalizing sink with
  | nil => exact stored
  | cons attempt later ih =>
      have afterFirst := afterAttempt_keeps_stub (Room.valid_of_ofPlan accepted)
        (plain attempt (List.mem_cons_self ..)) stored
      exact ih afterFirst fun other member => plain other (List.mem_cons_of_mem _ member)

/-- A stub was edited.  One run then fails behind it, and one writes a house that has a room on the
same floor whose name ends like the stub. -/
theorem edited_stub_survives_attempts :
    let keller : RoomPlan := { shortName := "Keller", longName := "Keller", floor := -1 }
    let sibling : RoomPlan := { keller with shortName := "KellerCustomization" }
    let stub : Path := (Room.vacant keller).stubPath
    let registry : Path := ⟨"Rooms.ts"⟩
    let attempts : List Attempt :=
      [⟨{ rooms := [keller] }, { registryFile := registry.text }, [registry.components]⟩,
        ⟨{ rooms := [sibling] }, { registryFile := registry.text }, []⟩]
    (attempts.foldl afterAttempt (.ofFiles [(stub, "edited")] [])).files.get? stub.components =
      some (stub, "edited") := by
  intro keller sibling stub registry attempts
  have accepted : Room.ofPlan keller = .ok (Room.vacant keller) := by decide +kernel
  have stored : (ofFiles [(stub, "edited")] []).files.get? stub.components =
      some (stub, "edited") := by
    decide +kernel
  have plain : ∀ attempt ∈ attempts, attempt.options.RegistryIsPlain := by
    intro attempt member
    have options : attempt.options.registryFile = registry.text := by
      simp only [attempts, List.mem_cons, List.not_mem_nil, or_false] at member
      rcases member with first | second
      · rw [first]
      · rw [second]
    rw [RenderOptions.RegistryIsPlain, options]
    decide +kernel
  exact stub_survives_attempts accepted stored attempts plain

end MemorySink

end Homeplan
