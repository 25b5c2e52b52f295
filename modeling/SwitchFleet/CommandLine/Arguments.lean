import SwitchFleet.CommandLine.Level
import SwitchFleet.CommandLine.Sheet

/-!
# Command lines

A command line is read in three levels: the options of the program, a verb, and a command of that
verb with its arguments.

* `CommandLine.Command`: what the program is asked to do.
* `CommandLine.Arguments`: a command with its options.
* `CommandLine.parse`: the arguments of a command line.
-/

namespace SwitchFleet.CommandLine

/-- What the program is asked to do. -/
inductive Command where
  | deviceInfo
  | interface (name : String)
  | peer (name : String)
  | interfaces
  | ports
  | setStatus (name status : String)
deriving DecidableEq

/-! ## Commands by name -/

/-- The verbs. -/
def verbs : List String := ["get", "list", "set"]

/-- The commands of a verb. -/
def commandsOf : String → List String
  | "get" => ["device-info", "interface", "interface-neighbor"]
  | "list" => ["interfaces", "ports"]
  | "set" => ["interface-status"]
  | _ => []

/-- The number of arguments of a command. -/
def argumentsOf : String → Nat
  | "interface" => 1
  | "interface-neighbor" => 1
  | "interface-status" => 2
  | _ => 0

/-- The command with a name and arguments. -/
def command? : String → List String → Option Command
  | "device-info", [] => some .deviceInfo
  | "interface", [name] => some (.interface name)
  | "interface-neighbor", [name] => some (.peer name)
  | "interfaces", [] => some .interfaces
  | "ports", [] => some .ports
  | "interface-status", [name, status] => some (.setStatus name status)
  | _, _ => none

/-! ## Rules of the levels -/

/-- What asking for help about commands leads to. A level is given by the names of its commands, and
the rest of the words are looked up below it. -/
def helpIn (names : List String) (below : String → List String → UsageError) :
    List String → UsageError
  | [] => .displayHelp
  | ["help"] => if names.isEmpty then .invalidSubcommand else .displayHelp
  | word :: words => if names.contains word then below word words else .invalidSubcommand

/-- What asking for help about a command without commands below it leads to. -/
def helpOnCommand (_ : String) : List String → UsageError := helpIn [] fun _ _ => .displayHelp

/-- What asking for help about a verb leads to. -/
def helpOnVerb (verb : String) : List String → UsageError :=
  helpIn (commandsOf verb) helpOnCommand

/-- The rules of the first level. -/
def firstRules (keys : List Key) (hasVersion : Bool) : Rules where
  keys := keys ++ if hasVersion then [.version] else []
  commands := verbs
  arguments := 0
  help := helpIn verbs helpOnVerb

/-- The rules after a verb. -/
def verbRules (keys : List Key) (verb : String) : Rules :=
  ⟨keys, commandsOf verb, 0, helpOnVerb verb⟩

/-- The rules after a command. -/
def commandRules (keys : List Key) (command : String) : Rules :=
  ⟨keys, [], argumentsOf command, helpOnCommand command⟩

/-! ## Whole command lines -/

/-- A command with its options. -/
structure Arguments where
  address : Option String
  port : Nat
  /-- The time that connecting may take, in seconds. -/
  connectTimeout : Nat
  output : Format
  debug : Bool
  command : Command
deriving DecidableEq

/-- The options of the program at every level. -/
def allKeys : List Key := [.address, .port, .connectTimeout, .output, .debug, .help]

/-- The values of options at a list of levels, last level first, with the variables of the
environment behind them. -/
def setting? (levels : List Level) (environment : Keyed String) (keys : List Key) (k : Key) :
    Option String :=
  (levels.findSome? fun l => l.value? k).orElse fun _ =>
    if keys.contains k then k.environmentName?.bind fun name => Keyed.get? name environment else none

/-- A command with the options that were given at three levels. -/
def collect (keys : List Key) (environment : Keyed String) (levels : List Level) (c : Command) :
    Arguments :=
  let setting? := setting? levels environment keys
  { address := setting? .address
    port := ((setting? .port).bind Key.port?).getD 50051
    connectTimeout := ((setting? .connectTimeout).bind Key.seconds?).getD 4
    output := if setting? .output == some "basic" then .basic else .table
    debug := (setting? .debug).isSome
    command := c }

/-- The level after a command, with the command. -/
def readCommand (keys : List Key) (environment : Keyed String) (name : String)
    (words : List String) : Except UsageError (Level × Command) := do
  let r := commandRules keys name
  let (l, _) ← Level.scan r words .start
  let l ← l.finish r environment false
  match command? name l.arguments with
  | some c => return (l, c)
  | none => throw .missingRequiredArgument

/-- The level after a verb and those below it, last level first, with the command. -/
def readVerb (keys : List Key) (environment : Keyed String) (verb : String) (words : List String) :
    Except UsageError (List Level × Command) := do
  let r := verbRules keys verb
  match ← Level.scan r words .start with
  | (l, some (name, words)) =>
    let (below, c) ← readCommand keys environment name words
    return ([below, ← l.finish r environment true], c)
  | (l, none) =>
    let _ ← l.finish r environment false
    throw .missingSubcommand

/-- The arguments of a command line, for a program with the given options. -/
def parse (keys : List Key) (hasVersion : Bool) (environment : Keyed String)
    (words : List String) : Except UsageError Arguments := do
  let r := firstRules keys hasVersion
  match ← Level.scan r words .start with
  | (l, some (verb, words)) =>
    let (below, c) ← readVerb keys environment verb words
    return collect keys environment (below ++ [← l.finish r environment true]) c
  | (l, none) =>
    let _ ← l.finish r environment false
    throw .missingSubcommand

/-- The address of the agent that a command is for. -/
def Arguments.agentAddress (a : Arguments) : String :=
  match a.address with
  | some address => if address.isEmpty then "localhost:" ++ toString a.port else address
  | none => "localhost:" ++ toString a.port

end SwitchFleet.CommandLine
