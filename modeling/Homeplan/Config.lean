import Homeplan.Artifact.Naming
import Homeplan.Document.TomlReading
import Homeplan.FileFault
import Homeplan.Path
import Homeplan.Text.Blank

namespace Homeplan

/-! The configuration of a run: a file, overridden by environment variables. -/

structure Config.Paths where
  input : Path := ⟨"rooms.json"⟩
  /-- The directory that gets one folder per room. -/
  outputDirectory : Path := ⟨"src/rooms"⟩
  registryFile : String := ({} : RenderOptions).registryFile
deriving DecidableEq, Repr

structure Config where
  paths : Config.Paths := {}
  runtimeModule : String := ({} : RenderOptions).runtimeModule
  filter : String := "roomgen=info"
deriving DecidableEq, Repr

inductive MissingValue where
  | input
  | outputDirectory
  | registryFile
  | runtimeModule
deriving DecidableEq, Repr

def MissingValue.message : MissingValue → String
  | .input => "input path must be set"
  | .outputDirectory => "output directory must be set"
  | .registryFile => "registry file name must be set"
  | .runtimeModule => "runtime module must be set"

inductive ConfigError where
  | unreadable (fault : FileFault)
  | malformed (fault : Document.Fault)
  | invalid (missing : MissingValue)
deriving DecidableEq, Repr

namespace ConfigError

def message : ConfigError → String
  | .unreadable _ => "failed to read config file"
  | .malformed _ => "failed to parse config file"
  | .invalid missing => "invalid configuration: " ++ missing.message

def causes : ConfigError → List String
  | .unreadable fault => [fault.message]
  | .malformed fault => [fault.message]
  | .invalid _ => []

end ConfigError

namespace Config

open Document Document.Reader

/-! ## Files

Every value may be left out; a value that stands in the file replaces the default.
-/

def setting (name : String) (fill : δ → α → δ) (read : Reader α) : RecordField δ :=
  field name false (fun _ => (none : Option α)) fill read

def path : Reader Path := fun rules document => do
  let text ← Reader.text rules document
  return ⟨text⟩

def Paths.reader : Reader Paths :=
  record "paths"
    [setting "input" (fun (paths : Paths) value => { paths with input := value }) path,
      setting "output_dir" (fun paths value => { paths with outputDirectory := value }) path,
      setting "registry_file" (fun paths value => { paths with registryFile := value }) Reader.text]
    {}

def textInSection (name key default : String) : Reader String :=
  record name [setting key (fun _ value => value) Reader.text] default

def reader : Reader Config :=
  record "configuration"
    [setting "paths" (fun (config : Config) paths => { config with paths }) Paths.reader,
      setting "codegen" (fun config runtimeModule => { config with runtimeModule })
        (textInSection "codegen" "runtime_module" ({} : Config).runtimeModule),
      setting "logging" (fun config filter => { config with filter })
        (textInSection "logging" "filter" ({} : Config).filter)]
    {}

/-- The file that is read when no other is named; it may be missing. -/
def defaultFile : Path := ⟨"roomgen.toml"⟩

/-- The configuration of a named file, or of the default file. -/
def ofFile (named : Bool) : Except FileFault String → Except ConfigError Config
  | .ok content => (Toml.read reader content).mapError .malformed
  | .error .notFound => if named then .error (.unreadable .notFound) else .ok {}
  | .error fault => .error (.unreadable fault)

/-! ## Environment -/

/-- The variables that override a configuration, in the order in which they apply. -/
def overrides : List (String × (Config → String → Config)) :=
  [("ROOMGEN_INPUT", fun config value =>
      { config with paths := { config.paths with input := ⟨value⟩ } }),
    ("ROOMGEN_OUTPUT_DIR", fun config value =>
      { config with paths := { config.paths with outputDirectory := ⟨value⟩ } }),
    ("ROOMGEN_RUNTIME_MODULE", fun config value => { config with runtimeModule := value }),
    ("ROOMGEN_LOG", fun config value => { config with filter := value }),
    ("RUST_LOG", fun config value => { config with filter := value })]

/-- The configuration with the variables that are set, empty or not. -/
def overriddenBy (config : Config) (environment : String → Option String) : Config :=
  overrides.foldl
    (fun config (name, replace) =>
      match environment name with
      | some value => replace config value
      | none => config)
    config

/-- Loads a named file, or the default file when none is named, and applies the environment. -/
def load [Monad m] (readText : Path → m (Except FileFault String))
    (environment : String → Option String) (named : Option Path) :
    m (Except ConfigError Config) := do
  let content ← readText (named.getD defaultFile)
  return (ofFile named.isSome content).map (·.overriddenBy environment)

/-! ## Validation -/

def missing? (config : Config) : Option MissingValue :=
  if config.paths.input.text.isEmpty then some .input
  else if config.paths.outputDirectory.text.isEmpty then some .outputDirectory
  else if Text.isBlank config.paths.registryFile then some .registryFile
  else if Text.isBlank config.runtimeModule then some .runtimeModule
  else none

def validate (config : Config) : Except ConfigError Unit :=
  match config.missing? with
  | some missing => .error (.invalid missing)
  | none => .ok ()

def renderOptions (config : Config) : RenderOptions where
  runtimeModule := config.runtimeModule
  registryFile := config.paths.registryFile

end Config

end Homeplan
