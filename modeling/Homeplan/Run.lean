import Homeplan.Artifact.Generation
import Homeplan.Artifact.TreeSink
import Homeplan.CommandLine
import Homeplan.Config
import Homeplan.HouseFile

namespace Homeplan

/-! One invocation of the program: configuration, house file, artifacts. -/

/-- What a run needs of the files around it. -/
structure Storage (m : Type → Type) where
  readText : Path → m (Except FileFault String)
  /-- Takes artifacts below a root path. -/
  sink : Path → Sink m

def FileSystem.storage : Storage (StateM FileSystem) where
  readText path := do
    let system ← get
    return system.readText path
  sink := TreeSink.write

inductive RunError where
  | configuration (error : ConfigError)
  | incomplete (error : ConfigError)
  | house (error : HouseFileError)
  | generation (error : GenerationError)
deriving DecidableEq, Repr

namespace RunError

/-- The messages of an error and of the errors below it, outermost first. -/
def chain : RunError → List String
  | .configuration error => "failed to load configuration" :: error.message :: error.causes
  | .incomplete error => error.message :: error.causes
  | .house error => error.message :: error.causes
  | .generation error => "generation failed" :: error.message :: error.causes

def text (error : RunError) : String := String.intercalate ": " error.chain

end RunError

namespace RunOptions

/-- The configuration with the paths that the options give. -/
def override (options : RunOptions) (config : Config) : Config :=
  { config with
    paths := { config.paths with
      input := (options.input.map Path.mk).getD config.paths.input
      outputDirectory := (options.outputDirectory.map Path.mk).getD config.paths.outputDirectory } }

def configuration [Monad m] (storage : Storage m) (environment : String → Option String)
    (options : RunOptions) : m (Except RunError Config) := do
  match ← Config.load storage.readText environment (options.config.map Path.mk) with
  | .error error => return .error (.configuration error)
  | .ok loaded =>
      let config := options.override loaded
      match config.validate with
      | .error error => return .error (.incomplete error)
      | .ok _ => return .ok config

def run [Monad m] (storage : Storage m) (environment : String → Option String)
    (options : RunOptions) : m (Except RunError Report) := do
  match ← options.configuration storage environment with
  | .error error => return .error error
  | .ok config =>
      match ← HousePlan.load storage.readText config.paths.input with
      | .error error => return .error (.house error)
      | .ok plan =>
          let sink := storage.sink config.paths.outputDirectory
          let outcome ← generate sink config.renderOptions plan
          return outcome.mapError .generation

end RunOptions

/-- What an invocation leaves besides files. -/
structure Outcome where
  exitCode : Nat
  output : String := ""
  complaint : Option String := none
deriving DecidableEq, Repr

def version : String := "0.1.0"

def usage : String :=
  "Compile a house description into TypeScript room modules\n\n" ++
    "Usage: roomgen [OPTIONS]\n\n" ++
    "Options:\n" ++
    "  -c, --config FILE      Configuration file, by default roomgen.toml when present\n" ++
    "  -i, --input FILE       House description, JSON or TOML\n" ++
    "  -o, --output-dir DIR   Directory receiving the generated room folders\n" ++
    "  -v, --verbose          Increase verbosity, -v for debug and -vv for trace\n" ++
    "  -h, --help             Print help\n" ++
    "  -V, --version          Print version\n"

def invoke [Monad m] (storage : Storage m) (environment : String → Option String)
    (arguments : List String) : m Outcome :=
  match Command.ofArguments arguments with
  | .help => pure { exitCode := 0, output := usage }
  | .version => pure { exitCode := 0, output := "roomgen " ++ version ++ "\n" }
  | .misuse =>
      pure { exitCode := 2, complaint := some "unexpected arguments, see --help" }
  | .run options => do
      match ← options.run storage environment with
      | .ok _ => return { exitCode := 0 }
      | .error error => return { exitCode := 1, complaint := some error.text }

end Homeplan
