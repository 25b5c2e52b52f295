import SwitchFleet.CommandLine.Option

/-!
# Usage

What the program says about itself and about command lines that break the rules.

* `CommandLine.versionText`, `CommandLine.usageText`: the version and the use of the program.
* `UsageError.output`, `UsageError.report?`: what is shown in place of a command.
-/

namespace SwitchFleet

namespace CommandLine

/-- The name of the program with its version. -/
def versionText : String := "agent-cli 0.1.0"

/-- The lines about the use of the program. -/
def usageLines : List String := [
  "Usage: agent-cli [OPTIONS] <COMMAND>",
  "",
  "Commands:",
  "  get device-info",
  "  get interface <NAME>",
  "  get interface-neighbor <NAME>",
  "  list interfaces",
  "  list ports",
  "  set interface-status <NAME> <STATUS>",
  "",
  "Options:",
  "      --address <ADDRESS>",
  "      --port <PORT>",
  "      --connect-timeout <SECONDS>",
  "  -o, --output <table|basic>",
  "      --debug",
  "  -h, --help",
  "  -V, --version"]

/-- The text about the use of the program. -/
def usageText : String := String.join (usageLines.map fun line => line ++ "\n")

end CommandLine

namespace UsageError

/-- What is wrong with a command line, in words. -/
def explanation : UsageError → String
  | displayHelp => "help was asked for"
  | nothingGiven => "a command is missing"
  | displayVersion => "the version was asked for"
  | missingSubcommand => "a command is missing"
  | invalidSubcommand => "there is no such command"
  | unknownArgument => "an argument was not expected"
  | missingRequiredArgument => "an argument is missing"
  | argumentConflict => "an option is given more than once"
  | invalidValue => "an option has no value, or none that is possible"
  | valueValidation => "the value of an option is not a number in range"
  | tooManyValues => "an option takes no value"

/-- What is asked for in place of a command. -/
def output : UsageError → String
  | displayVersion => CommandLine.versionText ++ "\n"
  | displayHelp => CommandLine.usageText
  | _ => ""

/-- The text about a command line that breaks the rules. -/
def report? (e : UsageError) : Option String :=
  if e.exitCode = 0 then none
  else some ("error: " ++ e.explanation ++ "\n\n" ++ CommandLine.usageText)

end UsageError

end SwitchFleet
