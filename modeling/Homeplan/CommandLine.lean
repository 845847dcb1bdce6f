namespace Homeplan

/-! Command line arguments.

An option that takes a path is given at most once, as `--input FILE`, `--input=FILE`, `-i FILE`,
`-iFILE` or `-i=FILE`; short options may share one dash.  There are no other arguments.
-/

inductive PathOption where
  | config
  | input
  | outputDirectory
deriving DecidableEq, Repr

inductive Switch where
  | path (option : PathOption)
  | verbose
  | help
  | version
deriving DecidableEq, Repr

namespace Switch

def ofName? (name : String) : Option Switch :=
  if name = "config" then some (.path .config)
  else if name = "input" then some (.path .input)
  else if name = "output-dir" then some (.path .outputDirectory)
  else if name = "verbose" then some .verbose
  else if name = "help" then some .help
  else if name = "version" then some .version
  else none

def ofLetter? (letter : Char) : Option Switch :=
  if letter = 'c' then some (.path .config)
  else if letter = 'i' then some (.path .input)
  else if letter = 'o' then some (.path .outputDirectory)
  else if letter = 'v' then some .verbose
  else if letter = 'h' then some .help
  else if letter = 'V' then some .version
  else none

end Switch

structure RunOptions where
  config : Option String := none
  input : Option String := none
  outputDirectory : Option String := none
  /-- How often more log lines are asked for. -/
  verbosity : Nat := 0
deriving DecidableEq, Repr

namespace RunOptions

def get? (options : RunOptions) : PathOption → Option String
  | .config => options.config
  | .input => options.input
  | .outputDirectory => options.outputDirectory

/-- Sets a path, unless it is empty or has been set before. -/
def set? (options : RunOptions) (option : PathOption) (path : String) : Option RunOptions :=
  if path.isEmpty || (options.get? option).isSome then none
  else
    match option with
    | .config => some { options with config := some path }
    | .input => some { options with input := some path }
    | .outputDirectory => some { options with outputDirectory := some path }

end RunOptions

inductive Command where
  | run (options : RunOptions)
  | help
  | version
  | misuse
deriving DecidableEq, Repr

namespace Command

/-- What the arguments up to some point ask for. -/
inductive Progress where
  | open (options : RunOptions)
  /-- The next argument is the value of an option. -/
  | awaiting (options : RunOptions) (option : PathOption)
  /-- No argument may follow. -/
  | closed (options : RunOptions)
  | settled (command : Command)
deriving DecidableEq, Repr

namespace Progress

def setPath (options : RunOptions) (option : PathOption) (path : String) : Progress :=
  match options.set? option path with
  | some options => .open options
  | none => .settled .misuse

def moreVerbose (options : RunOptions) : RunOptions :=
  { options with verbosity := options.verbosity + 1 }

/-- Reads an option by its full name, with the value that an equals sign attaches. -/
def long (options : RunOptions) (text : List Char) : Progress :=
  let name := text.takeWhile (· ≠ '=')
  match Switch.ofName? (String.ofList name), text.drop name.length with
  | some (.path option), _ :: attached => setPath options option (String.ofList attached)
  | some (.path option), [] => .awaiting options option
  | some .verbose, [] => .open (moreVerbose options)
  | some .help, [] => .settled .help
  | some .version, [] => .settled .version
  | _, _ => .settled .misuse

/-- Reads options by their letters; what follows the letter of a path is its value. -/
def short (options : RunOptions) : List Char → Progress
  | [] => .open options
  | letter :: rest =>
      match Switch.ofLetter? letter with
      | some (.path option) =>
          match rest with
          | [] => .awaiting options option
          | '=' :: attached => setPath options option (String.ofList attached)
          | attached => setPath options option (String.ofList attached)
      | some .verbose => short (moreVerbose options) rest
      | some .help => .settled .help
      | some .version => .settled .version
      | none => .settled .misuse

/-- Reads one argument.  A single dash is a value, and a double dash ends the options. -/
def next (progress : Progress) (argument : String) : Progress :=
  match progress, argument.toList with
  | .open options, ['-', '-'] => .closed options
  | .open options, '-' :: '-' :: text => long options text
  | .open _, ['-'] => .settled .misuse
  | .open options, '-' :: letters => short options letters
  | .open _, _ => .settled .misuse
  | .awaiting options option, ['-'] => setPath options option argument
  | .awaiting _ _, '-' :: _ => .settled .misuse
  | .awaiting options option, _ => setPath options option argument
  | .closed _, _ => .settled .misuse
  | .settled command, _ => .settled command

def finish : Progress → Command
  | .open options | .closed options => .run options
  | .awaiting _ _ => .misuse
  | .settled command => command

end Progress

/-- Reads arguments from left to right; the first request for help or for the version wins over
everything after it. -/
def ofArguments (arguments : List String) : Command :=
  (arguments.foldl Progress.next (.open {})).finish

end Command

end Homeplan
