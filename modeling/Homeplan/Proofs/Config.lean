import Homeplan.Proofs.Document.Fields
import Homeplan.Run

namespace Homeplan

/-! The values that a run is configured with, and where they come from.

Four sources are asked for a value: the options, the environment, the configuration file and the
defaults.  `RunOptions.effective` says for every value which of them decides; the file is taken as
the document that it holds.
-/

open Document Document.Reader

/-- The first of some sources that has a value, or else the default. -/
def firstOf (sources : List (Option String)) (default : String) : String :=
  (sources.findSome? id).getD default

theorem firstOf_nil (default : String) : firstOf [] default = default := rfl

theorem firstOf_cons (source : Option String) (later : List (Option String)) (default : String) :
    firstOf (source :: later) default = source.getD (firstOf later default) := by
  cases source <;> rfl

theorem Toml.read_eq_ok_iff {α : Type} {read : Reader α} {text : String} {value : α} :
    Toml.read read text = .ok value ↔
      ∃ document, Toml.document? text = some document ∧ read Toml.rules document = .ok value := by
  unfold Toml.read
  cases Toml.document? text <;> simp

namespace Config

def tables : List String := ["paths", "codegen", "logging"]

def pathKeys : List String := ["input", "output_dir", "registry_file"]

/-- The text that stands in a document under a key of one of its tables. -/
def written? (keys : List String) (table key : String) (document : Document) : Option String :=
  ((document.field? tables table).bind (·.field? keys key)).map asText

/-- The configuration file of a run holds a document that can be read, or there is no file.  Only
the default file may be missing. -/
inductive FileLoads (system : FileSystem) : Option Path → Option Document → Prop where
  | present {named : Option Path} {content : String} {document : Document} {loaded : Config}
      (stands : system.readText (named.getD defaultFile) = .ok content)
      (parsed : Toml.document? content = some document)
      (read : reader Toml.rules document = .ok loaded) : FileLoads system named (some document)
  | missing (absent : system.readText defaultFile = .error .notFound) : FileLoads system none none

/-- No value is missing. -/
structure Complete (config : Config) : Prop where
  input : config.paths.input.text ≠ ""
  outputDirectory : config.paths.outputDirectory.text ≠ ""
  registryFile : Text.isBlank config.paths.registryFile = false
  runtimeModule : Text.isBlank config.runtimeModule = false

theorem missing?_eq_none_iff (config : Config) : config.missing? = none ↔ config.Complete := by
  constructor
  · intro none
    constructor <;> grind [missing?, String.isEmpty_iff]
  · intro complete
    obtain ⟨input, outputDirectory, registryFile, runtimeModule⟩ := complete
    simp [missing?, input, outputDirectory, registryFile, runtimeModule]

theorem validate_eq_ok_iff (config : Config) : config.validate = .ok () ↔ config.Complete := by
  rw [← missing?_eq_none_iff, validate]
  cases config.missing? <;> simp

end Config

/-- The configuration of a run, given what its options, the environment and the configuration file
say. -/
def RunOptions.effective (options : RunOptions) (environment : String → Option String)
    (file : Option Document) : Config where
  paths :=
    { input := ⟨firstOf [options.input, environment "ROOMGEN_INPUT",
        file.bind (Config.written? Config.pathKeys "paths" "input")] "rooms.json"⟩
      outputDirectory := ⟨firstOf [options.outputDirectory, environment "ROOMGEN_OUTPUT_DIR",
        file.bind (Config.written? Config.pathKeys "paths" "output_dir")] "src/rooms"⟩
      registryFile := firstOf [file.bind (Config.written? Config.pathKeys "paths" "registry_file")]
        "RoomImportEnforcer.generated.ts" }
  runtimeModule := firstOf [environment "ROOMGEN_RUNTIME_MODULE",
    file.bind (Config.written? ["runtime_module"] "codegen" "runtime_module")] "hoffmation-base"
  filter := firstOf [environment "RUST_LOG", environment "ROOMGEN_LOG",
    file.bind (Config.written? ["filter"] "logging" "filter")] "roomgen=info"

namespace Config

/-! ## What the file says -/

theorem text_of_settled {inner : Rules} {default value : String} {found : Option Document}
    (settled : Settled (Reader.text inner) default found value) :
    value = (found.map asText).getD default := by
  cases found with
  | none => exact settled
  | some written =>
      cases written <;> cases settled
      rfl

theorem path_of_settled {inner : Rules} {default value : Path} {found : Option Document}
    (settled : Settled (path inner) default found value) :
    value.text = (found.map asText).getD default.text := by
  cases found with
  | none => exact congrArg Path.text settled
  | some written =>
      obtain ⟨text, textRead, same⟩ := bind_eq_ok.mp settled
      cases same
      have settledText : Settled (Reader.text inner) default.text (some written) text := textRead
      exact text_of_settled settledText

/-- The paths that are read from a table, or the defaults where there is no table. -/
structure Paths.From (entries : Option Document) (paths : Paths) : Prop where
  input : paths.input.text =
    ((entries.bind (·.field? pathKeys "input")).map asText).getD ({} : Paths).input.text
  outputDirectory : paths.outputDirectory.text =
    ((entries.bind (·.field? pathKeys "output_dir")).map asText).getD
      ({} : Paths).outputDirectory.text
  registryFile : paths.registryFile =
    ((entries.bind (·.field? pathKeys "registry_file")).map asText).getD ({} : Paths).registryFile

theorem paths_of_settled {inner : Rules} {found : Option Document} {paths : Paths}
    (settled : Settled (Paths.reader inner) {} found paths) : Paths.From found paths := by
  cases found with
  | none =>
      cases settled
      exact ⟨rfl, rfl, rfl⟩
  | some entries =>
      constructor
      · obtain ⟨_, input⟩ := record_settled Paths.input (by decide)
          (List.mem_cons_self ..) (fun _ _ => rfl) (by simp [setting, leaves_field]) settled
        exact path_of_settled input
      · obtain ⟨_, outputDirectory⟩ := record_settled Paths.outputDirectory (by decide)
          (List.mem_cons_of_mem _ (List.mem_cons_self ..)) (fun _ _ => rfl)
          (by simp [setting, leaves_field]) settled
        exact path_of_settled outputDirectory
      · obtain ⟨_, registryFile⟩ := record_settled Paths.registryFile (by decide)
          (List.mem_cons_of_mem _ (List.mem_cons_of_mem _ (List.mem_cons_self ..)))
          (fun _ _ => rfl) (by simp [setting, leaves_field]) settled
        exact text_of_settled registryFile

theorem text_of_table {name key default value : String} {inner : Rules} {found : Option Document}
    (settled : Settled (textInSection name key default inner) default found value) :
    value = ((found.bind (·.field? [key] key)).map asText).getD default := by
  cases found with
  | none => exact settled
  | some entries =>
      obtain ⟨_, text⟩ := record_settled id (by simp) (List.mem_cons_self ..)
        (fun _ _ => rfl) (by simp) settled
      exact text_of_settled text

theorem of_document {rules : Rules} {document : Document} {config : Config}
    (read : reader rules document = .ok config) :
    Paths.From (document.field? tables "paths") config.paths ∧
    config.runtimeModule =
      (written? ["runtime_module"] "codegen" "runtime_module" document).getD
        ({} : Config).runtimeModule ∧
    config.filter = (written? ["filter"] "logging" "filter" document).getD ({} : Config).filter := by
  refine ⟨?_, ?_, ?_⟩
  · obtain ⟨_, paths⟩ := record_settled Config.paths (by decide)
      (List.mem_cons_self ..) (fun _ _ => rfl) (by simp [setting, leaves_field]) read
    exact paths_of_settled paths
  · obtain ⟨_, runtimeModule⟩ := record_settled Config.runtimeModule (by decide)
      (List.mem_cons_of_mem _ (List.mem_cons_self ..)) (fun _ _ => rfl)
      (by simp [setting, leaves_field]) read
    exact text_of_table runtimeModule
  · obtain ⟨_, filter⟩ := record_settled Config.filter (by decide)
      (List.mem_cons_of_mem _ (List.mem_cons_of_mem _ (List.mem_cons_self ..)))
      (fun _ _ => rfl) (by simp [setting, leaves_field]) read
    exact text_of_table filter

/-! ## Whether the file loads -/

theorem ofFile_eq_ok_iff {named : Bool} {content : Except FileFault String} {loaded : Config} :
    ofFile named content = .ok loaded ↔
      (∃ text document, content = .ok text ∧ Toml.document? text = some document ∧
        reader Toml.rules document = .ok loaded) ∨
      (named = false ∧ content = .error .notFound ∧ loaded = {}) := by
  unfold ofFile
  split
  · rename_i text
    rw [mapError_eq_ok_iff, Toml.read_eq_ok_iff]
    simp
  · cases named <;> simp [eq_comm]
  · rename_i fault notMissing
    have other : fault ≠ .notFound := notMissing
    simp [other]

/-! ## What overrides the file -/

theorem overriddenBy_eq (config : Config) (environment : String → Option String) :
    config.overriddenBy environment =
      { paths :=
          { config.paths with
            input := ⟨(environment "ROOMGEN_INPUT").getD config.paths.input.text⟩
            outputDirectory :=
              ⟨(environment "ROOMGEN_OUTPUT_DIR").getD config.paths.outputDirectory.text⟩ }
        runtimeModule := (environment "ROOMGEN_RUNTIME_MODULE").getD config.runtimeModule
        filter := (environment "RUST_LOG").getD
          ((environment "ROOMGEN_LOG").getD config.filter) } := by
  simp only [overriddenBy, overrides, List.foldl_cons, List.foldl_nil]
  cases environment "ROOMGEN_INPUT" <;> cases environment "ROOMGEN_OUTPUT_DIR" <;>
    cases environment "ROOMGEN_RUNTIME_MODULE" <;> cases environment "ROOMGEN_LOG" <;>
      cases environment "RUST_LOG" <;> rfl

end Config

namespace RunOptions

variable (options : RunOptions) (environment : String → Option String)

theorem getD_map_path (given : Option String) (default : String) :
    (given.map Path.mk).getD ⟨default⟩ = ⟨given.getD default⟩ := by
  cases given <;> rfl

/-- What a run makes of the configuration in a file is what the four sources decide. -/
theorem override_of_document {rules : Rules} {document : Document} {loaded : Config}
    (read : Config.reader rules document = .ok loaded) :
    options.override (loaded.overriddenBy environment) =
      options.effective environment (some document) := by
  obtain ⟨paths, runtimeModule, filter⟩ := Config.of_document read
  rw [Config.overriddenBy_eq, override, effective]
  simp only [firstOf_cons, firstOf_nil, Option.bind_some, getD_map_path]
  rw [paths.input, paths.outputDirectory, paths.registryFile, runtimeModule, filter]
  rfl

theorem override_of_missing :
    options.override (({} : Config).overriddenBy environment) =
      options.effective environment none := by
  rw [Config.overriddenBy_eq, override, effective]
  simp only [firstOf_cons, firstOf_nil, Option.bind_none, Option.getD_none, getD_map_path]

/-- The configurations that a run can come to, before they are validated. -/
theorem exists_loaded_iff {system : FileSystem} {named : Option Path} {config : Config} :
    (∃ loaded, Config.ofFile named.isSome (system.readText (named.getD Config.defaultFile)) =
        .ok loaded ∧ options.override (loaded.overriddenBy environment) = config) ↔
      ∃ file, Config.FileLoads system named file ∧ options.effective environment file = config := by
  simp only [Config.ofFile_eq_ok_iff]
  constructor
  · intro loads
    obtain ⟨loaded, ⟨text, document, stands, parsed, read⟩ | ⟨implicit, absent, rfl⟩, rfl⟩ := loads
    · exact ⟨some document, .present stands parsed read,
        (options.override_of_document environment read).symm⟩
    · obtain rfl := Option.not_isSome_iff_eq_none.mp (by simpa using implicit)
      exact ⟨none, .missing absent, (options.override_of_missing environment).symm⟩
  · intro loads
    obtain ⟨file, stands, rfl⟩ := loads
    cases stands with
    | present stands parsed read =>
        exact ⟨_, Or.inl ⟨_, _, stands, parsed, read⟩,
          options.override_of_document environment read⟩
    | missing absent =>
        exact ⟨{}, Or.inr ⟨rfl, absent, rfl⟩, options.override_of_missing environment⟩

end RunOptions

end Homeplan
