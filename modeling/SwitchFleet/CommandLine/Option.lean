import SwitchFleet.Text.Decimal

/-!
# Options of the command line

* `UsageError`: how a command line breaks the rules.
* `CommandLine.Key`: the options, with their names.
* `CommandLine.Key.fault?`: what is wrong with the value of an option.
-/

namespace SwitchFleet

/-- How a command line breaks the rules, or what it asks for in place of a command. -/
inductive UsageError where
  | displayHelp
  /-- A command is missing, and there is nothing else on the command line. -/
  | nothingGiven
  | displayVersion
  | missingSubcommand
  | invalidSubcommand
  | unknownArgument
  | missingRequiredArgument
  | argumentConflict
  | invalidValue
  | valueValidation
  | tooManyValues
deriving DecidableEq

namespace UsageError

def name : UsageError → String
  | displayHelp => "DisplayHelp"
  | nothingGiven => "DisplayHelpOnMissingArgumentOrSubcommand"
  | displayVersion => "DisplayVersion"
  | missingSubcommand => "MissingSubcommand"
  | invalidSubcommand => "InvalidSubcommand"
  | unknownArgument => "UnknownArgument"
  | missingRequiredArgument => "MissingRequiredArgument"
  | argumentConflict => "ArgumentConflict"
  | invalidValue => "InvalidValue"
  | valueValidation => "ValueValidation"
  | tooManyValues => "TooManyValues"

/-- The exit code of a program that ends with an error. -/
def exitCode : UsageError → Nat
  | displayHelp => 0
  | displayVersion => 0
  | _ => 2

end UsageError

namespace CommandLine

/-- An option. -/
inductive Key where
  | address
  | port
  | connectTimeout
  | output
  | debug
  | help
  | version
deriving DecidableEq

namespace Key

/-- The name of an option after two hyphens. -/
def long : Key → String
  | address => "address"
  | port => "port"
  | connectTimeout => "connect-timeout"
  | output => "output"
  | debug => "debug"
  | help => "help"
  | version => "version"

/-- The name of an option after one hyphen. -/
def short? : Key → Option Char
  | output => some 'o'
  | help => some 'h'
  | version => some 'V'
  | _ => none

/-- The variable of the environment that stands in for an option. -/
def environmentName? : Key → Option String
  | address => some "SWITCH_AGENT_ADDRESS"
  | port => some "SWITCH_AGENT_PORT"
  | _ => none

/-- Whether an option has a value. -/
def takesValue : Key → Bool
  | debug => false
  | help => false
  | version => false
  | _ => true

/-- The number of a port. It may have a sign if it is zero or more. -/
def port? (s : String) : Option Nat :=
  match s.toList with
  | '-' :: ds => if ds.head? == some '+' then none else (Text.natural? ds).filter (· = 0)
  | _ => Text.bounded? UInt16.size s

/-- A number of seconds. -/
def seconds? (s : String) : Option Nat := Text.bounded? UInt64.size s

/-- What is wrong with the value of an option. -/
def fault? : Key → String → Option UsageError
  | output, s => if s = "table" ∨ s = "basic" then none else some .invalidValue
  | port, s => if (port? s).isSome then none else some .valueValidation
  | connectTimeout, s => if (seconds? s).isSome then none else some .valueValidation
  | _, _ => none

end Key

end CommandLine

end SwitchFleet
