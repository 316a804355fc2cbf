import TargetNet.Settings

/-!
# The command line

Two commands: `apply-net` applies a configuration to a target, and `net-state` turns a config file into
a state file. `Command.parse` reads the arguments and takes from the environment what they leave open;
`Command.run` carries the command out. What is wrong with the arguments is told apart from what goes
wrong while the command runs.
-/

namespace TargetNet

/-- What the program is called. -/
def programName : String := "netseed"

/-- The version of the program. -/
def programVersion : String := "0.1.0"

/-- A command with its settings. -/
inductive Command where
  | applyNet (settings : Settings)
  | netState (configFile output : Path)
  /-- No command: the program says what it is. -/
  | introduce
  deriving DecidableEq, Repr

/-- Why no command is carried out. -/
inductive NoCommand where
  /-- Help was asked for. -/
  | help
  /-- The version was asked for. -/
  | version
  /-- The arguments make no command. -/
  | misuse
  deriving DecidableEq, Repr

/-- The options of the commands. -/
inductive CommandOption where
  | stateFile
  | target
  | postupAlias
  | configFile
  | output
  deriving DecidableEq, Repr

namespace CommandOption

/-- The letter of an option. -/
def letter : CommandOption → Char
  | .stateFile => 's'
  | .target => 't'
  | .postupAlias => 'a'
  | .configFile => 'c'
  | .output => 'o'

/-- The word of an option. -/
def word : CommandOption → String
  | .stateFile => "net-state"
  | .target => "target"
  | .postupAlias => "postup-alias"
  | .configFile => "net-config"
  | .output => "output"

/-- The environment variable that stands in for an option. -/
def standIn? : CommandOption → Option String
  | .stateFile => some stateVariable
  | .target => some targetVariable
  | .configFile => some configVariable
  | .postupAlias | .output => none

/-- Whether the value of an option is a path, which must not be empty. -/
def isPath : CommandOption → Bool
  | .postupAlias => false
  | _ => true

end CommandOption

/-- The options of `apply-net`. -/
def applyNetOptions : List CommandOption :=
  [.stateFile, .target, .postupAlias, .configFile]

/-- The options of `net-state`. -/
def netStateOptions : List CommandOption :=
  [.configFile, .output]

/-- The options that were given, with their values. -/
abbrev GivenOptions := List (CommandOption × String)

/-- The value of an option. -/
def GivenOptions.get? (given : GivenOptions) (option : CommandOption) : Option String :=
  (given.find? (·.1 = option)).map (·.2)

/-- Gives an option a value, once. -/
def GivenOptions.add (given : GivenOptions) (option : CommandOption) (value : String) :
    Except NoCommand GivenOptions :=
  if (given.get? option).isSome || (option.isPath && value.isEmpty) then .error .misuse
  else .ok (given ++ [(option, value)])

/-- What an argument is by its first characters. -/
inductive Argument where
  /-- An option by its word, perhaps with a value after an equals sign. -/
  | word (name : String) (value : Option String)
  /-- An option by its letter, and what follows the letter. -/
  | letter (c : Char) (rest : List Char)
  /-- The end of the options. -/
  | dashes
  | other
  deriving DecidableEq, Repr

/-- Sorts an argument. -/
def Argument.ofString (argument : String) : Argument :=
  match argument.toList with
  | ['-', '-'] => .dashes
  | '-' :: '-' :: cs =>
    let value := match cs.dropWhile (· != '=') with
      | [] => none
      | _ :: value => some (String.ofList value)
    .word (String.ofList (cs.takeWhile (· != '='))) value
  | '-' :: c :: rest => .letter c rest
  | _ => .other

/-- The value that follows a letter directly; an equals sign may come first. -/
def attachedValue : List Char → Option String
  | [] => none
  | '=' :: value => some (String.ofList value)
  | value => some (String.ofList value)

/-- Reads options with their values. -/
def parseOptions (options : List CommandOption) (given : GivenOptions) :
    List String → Except NoCommand GivenOptions
  | [] => .ok given
  | argument :: rest =>
    let withValue (option? : Option CommandOption) (value? : Option String) :=
      match option?, value?, rest with
      | none, _, _ => .error .misuse
      | some option, some value, rest => do parseOptions options (← given.add option value) rest
      | some option, none, value :: rest =>
        match Argument.ofString value with
        | .other => do parseOptions options (← given.add option value) rest
        | _ => .error .misuse
      | some _, none, [] => .error .misuse
    match Argument.ofString argument with
    | .dashes => if rest.isEmpty then .ok given else .error .misuse
    | .word name value? =>
      if name == "help" then .error (if value?.isNone then .help else .misuse)
      else withValue (options.find? (·.word == name)) value?
    | .letter c attached =>
      if c == 'h' then .error .help
      else withValue (options.find? (·.letter == c)) (attachedValue attached)
    | .other => .error .misuse
termination_by arguments => arguments.length

/-- Takes from the environment what was not given. -/
def fromEnvironment (environment : String → Option String) (given : GivenOptions) :
    List CommandOption → Except NoCommand GivenOptions
  | [] => .ok given
  | option :: rest =>
    if (given.get? option).isSome then fromEnvironment environment given rest
    else
      match option.standIn?.bind environment with
      | none => fromEnvironment environment given rest
      | some value => do fromEnvironment environment (← given.add option value) rest

namespace GivenOptions

/-- The path that an option has as its value. -/
def path? (given : GivenOptions) (option : CommandOption) : Option Path :=
  (given.get? option).map Path.ofString

/-- The settings that the options of `apply-net` make. -/
def settings (given : GivenOptions) : Settings where
  target := given.path? .target
  stateFile := given.path? .stateFile
  configFile := given.path? .configFile
  postupAlias := given.get? .postupAlias

end GivenOptions

/-- Reads the arguments and the environment. -/
def Command.parse (environment : String → Option String) :
    List String → Except NoCommand Command
  | [] => .ok .introduce
  | ["--"] => .ok .introduce
  | "apply-net" :: rest => do
    let given ← parseOptions applyNetOptions [] rest
    return .applyNet (← fromEnvironment environment given applyNetOptions).settings
  | "net-state" :: rest => do
    let given ← parseOptions netStateOptions [] rest
    let given ← fromEnvironment environment given netStateOptions
    match given.path? .configFile, given.path? .output with
    | some configFile, some output => return .netState configFile output
    | _, _ => .error .misuse
  | "help" :: rest =>
    if rest = [] ∨ rest = ["help"] ∨ rest = ["apply-net"] ∨ rest = ["net-state"] then .error .help
    else .error .misuse
  | argument :: _ =>
    match Argument.ofString argument with
    | .word "help" none | .letter 'h' _ => .error .help
    | .word "version" none | .letter 'V' _ => .error .version
    | _ => .error .misuse

/-- How a run of the program ends. -/
inductive Ending where
  /-- All went well, with this output. -/
  | success (output : String)
  /-- The arguments make no command. -/
  | misuse
  /-- Something went wrong; `context` says what was being done, if the error does not. -/
  | failure (context : Option String) (error : Error)
  deriving DecidableEq, Repr

namespace Ending

/-- The exit status. -/
def status : Ending → Nat
  | .success _ => 0
  | .misuse => 2
  | .failure _ error => if error.isMissingInput then 2 else 1

/-- What the program prints. -/
def output : Ending → String
  | .success text => text
  | _ => ""

end Ending

/-- The wording of an error with its cause after it. -/
def Error.chain (error : Error) : String :=
  match error with
  | .write _ fault => error.message ++ ": " ++ fault.message
  | _ => if error.kind = .yaml then error.message ++ ": " ++ error.detail else error.message

/-- What the program complains of. -/
def Ending.complaint? : Ending → Option String
  | .failure none error => some error.chain
  | .failure (some context) error => some (context ++ ": " ++ error.chain)
  | _ => none

/-- What the program says of itself. -/
def introduction : String :=
  programName ++ " v" ++ programVersion ++ "\nRun '" ++ programName ++
    " --help' for usage information\n"

/-- How the program is used. -/
def helpText : String :=
  "Apply network configuration to an installation target\n\n" ++
  "Usage: " ++ programName ++ " [COMMAND]\n\n" ++
  "Commands:\n" ++
  "  apply-net  [-s NETSTATE] [-t TARGET] [-a POST] [-c NETCONFIG]\n" ++
  "  net-state  -c NETCONFIG -o NETSTATE\n" ++
  "  help\n"

/-- The line about what became of an artifact. -/
def legacyLine (result : Path × Option Legacy.Outcome) : String :=
  result.1.display ++ ": " ++
    match result.2 with
    | some outcome => outcome.name
    | none => "not reconciled"

/-- Leaves lines for the log. -/
def sayAll : List String → Job Remark Unit
  | [] => pure ()
  | line :: rest => do
    Job.say .info line
    sayAll rest

/-- The command `apply-net`. -/
def applyNet [Circumstances] (probe : Package.Probe) (settings : Settings) : Job Note Unit := do
  let request ← Job.ofExcept settings.toRequest
  let applied ← request.apply Renderer.standard probe
  (sayAll (("postup alias: " ++ Renderer.truthWord applied.postupAlias) ::
    applied.legacy.map legacyLine)).noting

/-- What is said of a state file that was written. -/
def stateWritten (state : Network.State) (output : Path) : String :=
  "Wrote network state for " ++ Decimal.text state.interfaces.length ++ " interface(s) to " ++
    output.display ++ "\n"

/-- The command `net-state`. -/
def netState [Circumstances] (configFile output : Path) : Job Note Ending := do
  match ← (Network.loadConfig configFile).noting.attempt with
  | .error error => return .failure (some ("Failed to parse " ++ configFile.display)) error
  | .ok state =>
    match ← (Network.saveState state output).noting.attempt with
    | .error error => return .failure none error
    | .ok () => return .success (stateWritten state output)

/-- Carries out a command. -/
def Command.run [Circumstances] (probe : Package.Probe) : Command → Job Note Ending
  | .introduce => pure (.success introduction)
  | .netState configFile output => TargetNet.netState configFile output
  | .applyNet settings => do
    match ← (TargetNet.applyNet probe settings).attempt with
    | .ok () => return .success ""
    | .error error => return .failure none error

/-- How a run without a command ends. -/
def NoCommand.ending : NoCommand → Ending
  | .help => .success helpText
  | .version => .success (programName ++ " " ++ programVersion ++ "\n")
  | .misuse => .misuse

/-- Runs the program with some arguments. -/
def runProgram [Circumstances] (probe : Package.Probe) (environment : String → Option String)
    (arguments : List String) : Job Note Ending :=
  match Command.parse environment arguments with
  | .ok command => command.run probe
  | .error reason => pure reason.ending

end TargetNet
