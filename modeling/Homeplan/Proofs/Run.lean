import Homeplan.Proofs.Artifact.Delivery
import Homeplan.Proofs.Config

namespace Homeplan

/-! How a run ends, on every file system.

Before a run writes anything it settles all that it is going to write.  `RunOptions.Prepares` says
what has to succeed for that; until then the file system stays as it is.  The run succeeds if and
only if this does and every artifact can then be written.
-/

/-- A plan is described by the file at a path. -/
def HousePlan.StandsIn (plan : HousePlan) (system : FileSystem) (path : Path) : Prop :=
  ∃ format text, HouseFormat.ofPath? path = some format ∧ system.readText path = .ok text ∧
    HousePlan.parse format path text = .ok plan

/-- Everything succeeds that comes before the first write: a run gets this configuration, and has
these artifacts to write. -/
structure RunOptions.Prepares (options : RunOptions) (environment : String → Option String)
    (system : FileSystem) (config : Config) (artifacts : List Artifact) : Prop where
  loads : ∃ file, Config.FileLoads system (options.config.map Path.mk) file ∧
    options.effective environment file = config
  complete : config.Complete
  house : ∃ plan house, HousePlan.StandsIn plan system config.paths.input ∧
    House.compile plan = .ok house ∧ house.artifacts config.renderOptions = .ok artifacts

/-! ## Up to the first write -/

theorem run_bind_of_run {σ α β : Type} {first : StateM σ α} {next : α → StateM σ β}
    {before after : σ} {value : α} (ends : first.run before = (value, after)) :
    (first >>= next).run before = (next value).run after := by
  rw [StateT.run_bind, ends]
  rfl

/-- Reading a file leaves the file system as it is. -/
theorem FileSystem.run_readText {α : Type} (system : FileSystem) (path : Path)
    (next : Except FileFault String → StateM FileSystem α) :
    (FileSystem.storage.readText path >>= next).run system =
      (next (system.readText path)).run system := rfl

theorem HousePlan.load_run (system : FileSystem) (path : Path) :
    ∃ result, (HousePlan.load FileSystem.storage.readText path).run system = (result, system) ∧
      ∀ plan, result = .ok plan ↔ HousePlan.StandsIn plan system path := by
  unfold HousePlan.load HousePlan.StandsIn
  cases HouseFormat.ofPath? path with
  | none => exact ⟨_, rfl, by simp⟩
  | some format =>
      dsimp only
      rw [FileSystem.run_readText]
      cases system.readText path with
      | error fault => exact ⟨_, rfl, by simp⟩
      | ok text => exact ⟨_, rfl, by simp⟩

namespace RunOptions

variable (options : RunOptions) (environment : String → Option String)

theorem configuration_run (system : FileSystem) :
    ∃ result, (options.configuration FileSystem.storage environment).run system =
        (result, system) ∧
      ∀ config, result = .ok config ↔
        (∃ file, Config.FileLoads system (options.config.map Path.mk) file ∧
          options.effective environment file = config) ∧ config.Complete := by
  simp only [← options.exists_loaded_iff environment, ← Config.validate_eq_ok_iff]
  unfold configuration Config.load
  rw [bind_assoc, FileSystem.run_readText, pure_bind]
  cases Config.ofFile (options.config.map Path.mk).isSome
      (system.readText ((options.config.map Path.mk).getD Config.defaultFile)) with
  | error error => exact ⟨_, rfl, by simp⟩
  | ok loaded =>
      dsimp only [Except.map]
      cases valid : (options.override (loaded.overriddenBy environment)).validate with
      | error error => exact ⟨_, rfl, by simp [valid]⟩
      | ok _ => exact ⟨_, rfl, by simp [valid]⟩

variable {options environment} {system : FileSystem}

theorem run_loaded {config : Config} {plan : HousePlan}
    (loads : ∃ file, Config.FileLoads system (options.config.map Path.mk) file ∧
      options.effective environment file = config)
    (complete : config.Complete) (stands : HousePlan.StandsIn plan system config.paths.input) :
    let generated :=
      (generate (TreeSink.write config.paths.outputDirectory) config.renderOptions plan).run system
    (options.run FileSystem.storage environment).run system =
      (generated.1.mapError .generation, generated.2) := by
  intro generated
  obtain ⟨result, configured, iff_configured⟩ := options.configuration_run environment system
  obtain rfl := (iff_configured config).mpr ⟨loads, complete⟩
  obtain ⟨loaded, loadRun, iff_stands⟩ := HousePlan.load_run system config.paths.input
  obtain rfl := (iff_stands plan).mpr stands
  unfold run
  rw [run_bind_of_run configured]
  dsimp only
  rw [run_bind_of_run loadRun]
  rfl

/-- A prepared run comes down to the delivery of its artifacts. -/
theorem run_prepared {config : Config} {artifacts : List Artifact}
    (prepares : options.Prepares environment system config artifacts)
    {ending : Except SinkError Delivery} {after : FileSystem}
    (delivered : (deliver (TreeSink.write config.paths.outputDirectory) .empty artifacts).run
      system = (ending, after)) :
    ∃ rooms, (options.run FileSystem.storage environment).run system =
      ((ending.mapError (RunError.generation ∘ .sink)).map (⟨rooms, ·⟩), after) := by
  obtain ⟨plan, house, stands, compiled, planned⟩ := prepares.house
  have complete : plan.artifacts config.renderOptions =
      .ok (plan.rooms.map (·.shortName), artifacts) := by
    rw [HousePlan.artifacts_of_compile compiled, planned]
    rfl
  rw [run_loaded prepares.loads prepares.complete stands, generate_planned _ complete, delivered]
  cases ending <;> exact ⟨plan.rooms.map (·.shortName), rfl⟩

theorem run_of_takes {config : Config} {outcomes : List (Artifact × WriteOutcome)}
    {after : FileSystem}
    (prepares : options.Prepares environment system config (outcomes.map (·.1)))
    (takes : (TreeSink.write config.paths.outputDirectory).Takes system outcomes after) :
    ∃ report, (options.run FileSystem.storage environment).run system = (.ok report, after) := by
  obtain ⟨rooms, ends⟩ := run_prepared prepares (deliver_of_takes _ _ takes)
  exact ⟨_, ends⟩

/-- A prepared run writes all artifacts, or breaks off at the first that cannot be written. -/
theorem run_ends {config : Config} {artifacts : List Artifact}
    (prepares : options.Prepares environment system config artifacts) :
    let sink := TreeSink.write config.paths.outputDirectory
    (∃ outcomes after report, outcomes.map (·.1) = artifacts ∧ sink.Takes system outcomes after ∧
      (options.run FileSystem.storage environment).run system = (.ok report, after)) ∨
    ∃ error after calls failure, sink.BreaksOff system artifacts error after calls ∧
      (options.run FileSystem.storage environment).run system = (.error failure, after) := by
  intro sink
  rcases deliver_ends sink .empty artifacts system with broken | complete
  · obtain ⟨error, after, calls, breaksOff, delivered⟩ := broken
    obtain ⟨rooms, ends⟩ := run_prepared prepares delivered
    exact Or.inr ⟨error, after, calls, _, breaksOff, ends⟩
  · obtain ⟨outcomes, after, takes, same, delivered⟩ := complete
    obtain ⟨rooms, ends⟩ := run_prepared prepares delivered
    exact Or.inl ⟨outcomes, after, _, same, takes, ends⟩

/-- A run that is not prepared ends with an error and has changed nothing. -/
theorem run_unprepared
    (unprepared : ¬ ∃ config artifacts, options.Prepares environment system config artifacts) :
    ∃ error, (options.run FileSystem.storage environment).run system = (.error error, system) := by
  obtain ⟨result, configured, iff_configured⟩ := options.configuration_run environment system
  -- Every stage that can fail here only reads, so it fails on the system as it was.
  cases result with
  | error error => exact ⟨error, run_bind_of_run configured⟩
  | ok config =>
      obtain ⟨loads, complete⟩ := (iff_configured config).mp rfl
      obtain ⟨loaded, loadRun, iff_stands⟩ := HousePlan.load_run system config.paths.input
      cases loaded with
      | error error =>
          exact ⟨.house error, (run_bind_of_run configured).trans (run_bind_of_run loadRun)⟩
      | ok plan =>
          have stands := (iff_stands plan).mp rfl
          rw [run_loaded loads complete stands]
          cases planned : plan.artifacts config.renderOptions with
          | error defect =>
              rw [generate_invalid _ planned]
              exact ⟨.generation (.invalid defect), rfl⟩
          | ok outcome =>
              obtain ⟨rooms, artifacts⟩ := outcome
              obtain ⟨house, compiled, housePlanned⟩ := HousePlan.artifacts_eq_ok planned
              exact absurd ⟨config, artifacts, loads, complete, plan, house, stands, compiled,
                housePlanned⟩ unprepared

end RunOptions

/-! ## The exit code -/

section Invocation

variable {arguments : List String} {options : RunOptions}
  (accepted : Command.ofArguments arguments = .run options)
  {environment : String → Option String} {system after : FileSystem}
include accepted

theorem invoke_ok {report : Report}
    (ends : (options.run FileSystem.storage environment).run system = (.ok report, after)) :
    (invoke FileSystem.storage environment arguments).run system = ({ exitCode := 0 }, after) := by
  unfold invoke
  rw [accepted]
  dsimp only
  rw [run_bind_of_run ends]
  rfl

theorem invoke_error {error : RunError}
    (ends : (options.run FileSystem.storage environment).run system = (.error error, after)) :
    (invoke FileSystem.storage environment arguments).run system =
      ({ exitCode := 1, complaint := some error.text }, after) := by
  unfold invoke
  rw [accepted]
  dsimp only
  rw [run_bind_of_run ends]
  rfl

theorem invoke_unprepared
    (unprepared : ¬ ∃ config artifacts, options.Prepares environment system config artifacts) :
    ∃ outcome, (invoke FileSystem.storage environment arguments).run system = (outcome, system) ∧
      outcome.exitCode = 1 := by
  obtain ⟨error, ends⟩ := RunOptions.run_unprepared unprepared
  exact ⟨_, invoke_error accepted ends, rfl⟩

theorem invoke_prepared {config : Config} {artifacts : List Artifact}
    (prepares : options.Prepares environment system config artifacts) :
    let sink := TreeSink.write config.paths.outputDirectory
    ∃ outcome after,
      (invoke FileSystem.storage environment arguments).run system = (outcome, after) ∧
      ((outcome.exitCode = 0 ∧
        ∃ outcomes, outcomes.map (·.1) = artifacts ∧ sink.Takes system outcomes after) ∨
      (outcome.exitCode = 1 ∧
        ∃ error calls, sink.BreaksOff system artifacts error after calls)) := by
  intro sink
  rcases RunOptions.run_ends prepares with complete | broken
  · obtain ⟨outcomes, after, report, same, takes, ends⟩ := complete
    exact ⟨_, after, invoke_ok accepted ends, Or.inl ⟨rfl, outcomes, same, takes⟩⟩
  · obtain ⟨error, after, calls, failure, breaksOff, ends⟩ := broken
    exact ⟨_, after, invoke_error accepted ends, Or.inr ⟨rfl, error, calls, breaksOff⟩⟩

end Invocation

/-- A run exits with 0 if and only if everything succeeds up to the first write, and then every
write below the output directory; otherwise it exits with 1.  If anything fails before the first
write, the file system is as it was; else it is as the writes left it, up to the first that
failed. -/
theorem exit_code_of_run {arguments : List String} {options : RunOptions}
    (accepted : Command.ofArguments arguments = .run options)
    (environment : String → Option String) (system : FileSystem) :
    let ended := (invoke FileSystem.storage environment arguments).run system
    (ended.1.exitCode = 0 ↔ ∃ config artifacts,
      options.Prepares environment system config artifacts ∧
      ∃ outcomes after, outcomes.map (·.1) = artifacts ∧
        (TreeSink.write config.paths.outputDirectory).Takes system outcomes after) ∧
    (ended.1.exitCode ≠ 0 → ended.1.exitCode = 1) ∧
    ((¬ ∃ config artifacts, options.Prepares environment system config artifacts) →
      ended.2 = system) ∧
    ∀ config artifacts, options.Prepares environment system config artifacts →
      let sink := TreeSink.write config.paths.outputDirectory
      (∃ outcomes, outcomes.map (·.1) = artifacts ∧ sink.Takes system outcomes ended.2) ∨
      ∃ error calls, sink.BreaksOff system artifacts error ended.2 calls := by
  intro ended
  have asWritten : ∀ config artifacts, options.Prepares environment system config artifacts →
      let sink := TreeSink.write config.paths.outputDirectory
      (ended.1.exitCode = 0 ∧
        ∃ outcomes, outcomes.map (·.1) = artifacts ∧ sink.Takes system outcomes ended.2) ∨
      (ended.1.exitCode = 1 ∧
        ∃ error calls, sink.BreaksOff system artifacts error ended.2 calls) := by
    intro config artifacts prepares
    obtain ⟨outcome, after, ends, written⟩ := invoke_prepared accepted prepares
    have same : ended = (outcome, after) := ends
    rwa [same]
  by_cases prepared : ∃ config artifacts, options.Prepares environment system config artifacts
  · obtain ⟨config, artifacts, prepares⟩ := prepared
    have written := asWritten config artifacts prepares
    refine ⟨⟨fun success => ?_, fun succeeds => ?_⟩,
      fun failure => (written.resolve_left fun complete => failure complete.1).1,
      fun unprepared => absurd ⟨config, artifacts, prepares⟩ unprepared,
      fun config artifacts prepares =>
        (asWritten config artifacts prepares).imp And.right And.right⟩
    · have unbroken : ¬ ended.1.exitCode = 1 := by simp [success]
      obtain ⟨_, outcomes, same, takes⟩ := written.resolve_right fun broken => unbroken broken.1
      exact ⟨config, artifacts, prepares, outcomes, _, same, takes⟩
    · obtain ⟨config, artifacts, prepares, outcomes, after, rfl, takes⟩ := succeeds
      obtain ⟨report, ends⟩ := RunOptions.run_of_takes prepares takes
      have same : ended = ({ exitCode := 0 }, after) := invoke_ok accepted ends
      rw [same]
  · obtain ⟨outcome, ends, code⟩ := invoke_unprepared accepted prepared
    have same : ended = (outcome, system) := ends
    rw [same]
    refine ⟨⟨fun success => absurd (code.symm.trans success) (by decide), fun succeeds => ?_⟩,
      fun _ => code, fun _ => rfl,
      fun config artifacts prepares => absurd ⟨config, artifacts, prepares⟩ prepared⟩
    obtain ⟨config, artifacts, prepares, _⟩ := succeeds
    exact absurd ⟨config, artifacts, prepares⟩ prepared

/-- An output directory in the options wins over the one in the environment; the runtime module
stands in the environment and the input in the file.  The house has no rooms. -/
theorem exit_code_with_four_sources :
    let environment : String → Option String := fun name =>
      if name = "ROOMGEN_OUTPUT_DIR" then some "elsewhere"
      else if name = "ROOMGEN_RUNTIME_MODULE" then some "runtime"
      else none
    let options : RunOptions := { outputDirectory := some "out" }
    let system : FileSystem :=
      { root := .folder [("h.json", .file "\x7b\x7d".toUTF8),
          ("roomgen.toml", .file "paths.input = 'h.json'".toUTF8)]
        working := [] }
    Command.ofArguments ["-o", "out"] = .run options ∧
    ((invoke FileSystem.storage environment ["-o", "out"]).run system).1.exitCode = 0 ∧
    ∃ config artifacts, options.Prepares environment system config artifacts ∧
      config.paths.outputDirectory = ⟨"out"⟩ ∧ config.runtimeModule = "runtime" ∧
      ∃ outcomes after, outcomes.map (·.1) = artifacts ∧
        (TreeSink.write ⟨"out"⟩).Takes system outcomes after := by
  intro environment options system
  have accepted : Command.ofArguments ["-o", "out"] = .run options := by decide +kernel
  have success :
      ((invoke FileSystem.storage environment ["-o", "out"]).run system).1.exitCode = 0 := by
    decide +kernel
  obtain ⟨config, artifacts, prepares, written⟩ :=
    (exit_code_of_run accepted environment system).1.mp success
  obtain ⟨file, _, rfl⟩ := prepares.loads
  exact ⟨accepted, success, _, artifacts, prepares, rfl, rfl, written⟩

end Homeplan
