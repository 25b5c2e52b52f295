import SwitchFleet.CommandLine.Option
import SwitchFleet.Keyed
import SwitchFleet.Text.Cut

/-!
# Levels of the command line

The words of a command line belong to one level each: a level ends where a word names a command of
the next level. Options may stand at every level, and have one value each.

* `Rules`: what may stand at a level.
* `Level.scan`: the words of a level, and the words of the next one.
* `Level.finish`: the last checks of a level.
-/

namespace SwitchFleet.CommandLine

/-- What may stand at a level. -/
structure Rules where
  keys : List Key
  commands : List String
  /-- The number of arguments. A level has commands or arguments, but not both. -/
  arguments : Nat
  /-- What asking for help about a list of commands leads to. -/
  help : List String → UsageError

/-- What has been read of a level. -/
structure Level where
  settings : List (Key × String)
  /-- The last option, as long as its value has not been looked at. -/
  pending : Option (Key × Option String)
  argumentsOnly : Bool
  arguments : List String

namespace Level

/-- A level of which nothing has been read. -/
def start : Level := ⟨[], none, false, []⟩

/-- The value of an option. -/
def value? (l : Level) (k : Key) : Option String := l.settings.lookup k

/-- The level with the value of an option. An option has to have a value if it takes one, and may be
given once. -/
def set (k : Key) (value : Option String) (l : Level) : Except UsageError Level :=
  match k with
  | .help => .error .displayHelp
  | .version => .error .displayVersion
  | k =>
    if k.takesValue && value.isNone then .error .invalidValue
    else if (l.value? k).isSome then .error .argumentConflict
    else
      let text := value.getD ""
      match k.fault? text with
      | some e => .error e
      | none => .ok { l with settings := l.settings ++ [(k, text)] }

/-- The level after the value of the last option was looked at. -/
def settle (l : Level) : Except UsageError Level :=
  match l.pending with
  | none => .ok l
  | some (k, value) => set k value { l with pending := none }

/-- The level with one more option and its value. -/
def add (k : Key) (value : Option String) (l : Level) : Except UsageError Level := do
  set k value (← l.settle)

/-- The level with an option whose value may follow. -/
def await (k : Key) (l : Level) : Except UsageError Level := do
  return { (← l.settle) with pending := some (k, none) }

/-- Whether the next word may be the value of the last option. -/
def isAwaiting (l : Level) : Bool :=
  match l.pending with
  | some (_, none) => true
  | _ => false

/-- The level with a word as the value of the last option. -/
def supply (word : String) (l : Level) : Level :=
  { l with pending := l.pending.map fun p => (p.1, some word) }

/-- The level after a word that begins with two hyphens. -/
def readLong (r : Rules) (word : List Char) (l : Level) : Except UsageError Level :=
  let (name, attached) := match Text.cutAt '=' word with
    | some (name, value) => (name, some (String.ofList value))
    | none => (word, none)
  match r.keys.find? fun k => k.long == String.ofList name with
  | none => .error .unknownArgument
  | some k =>
    if k.takesValue then
      match attached with
      | some value => l.add k (some value)
      | none => l.await k
    else if attached.isSome then .error .tooManyValues
    else l.add k none

/-- The level after a word that begins with one hyphen. It may hold several options. -/
def readShort (r : Rules) : List Char → Level → Except UsageError Level
  | [], l => .ok l
  | c :: cs, l =>
    match r.keys.find? fun k => k.short? == some c with
    | none => .error .unknownArgument
    | some k =>
      if k.takesValue then
        match cs with
        | [] => l.await k
        | '=' :: value => l.add k (some (String.ofList value))
        | value => l.add k (some (String.ofList value))
      else do readShort r cs (← l.add k none)

/-- The level after an argument. -/
def readArgument (r : Rules) (word : String) (l : Level) : Except UsageError Level := do
  let l ← l.settle
  if l.arguments.length < r.arguments then return { l with arguments := l.arguments ++ [word] }
  else if r.commands.isEmpty then throw .unknownArgument
  else if l.argumentsOnly && (r.commands.contains word || word == "help") then
    throw .unknownArgument
  else throw .invalidSubcommand

/-- The level after a word that is no command. -/
def readWord (r : Rules) (word : String) (l : Level) : Except UsageError Level :=
  if l.argumentsOnly then l.readArgument r word
  else
    match word.toList with
    | ['-', '-'] => .ok { l with argumentsOnly := true }
    | '-' :: '-' :: cs => l.readLong r cs
    | '-' :: c :: cs => l.readShort r (c :: cs)
    | _ => if l.isAwaiting then .ok (l.supply word) else l.readArgument r word

/-- Whether a word is looked up among the commands of the next level. -/
def expectsCommand (r : Rules) (l : Level) : Bool :=
  !l.argumentsOnly && !l.isAwaiting && !r.commands.isEmpty

/-- The words of a level, and the command that ends it with the words after that. -/
def scan (r : Rules) : List String → Level → Except UsageError (Level × Option (String × List String))
  | [], l => .ok (l, none)
  | word :: words, l =>
    if l.expectsCommand r && r.commands.contains word then .ok (l, some (word, words))
    else if l.expectsCommand r && word == "help" then .error (r.help words)
    else do scan r words (← l.readWord r word)

/-- The options that variables of the environment stand in for. -/
def standIns (r : Rules) (environment : Keyed String) (l : Level) : List (Key × String) :=
  r.keys.filterMap fun k =>
    if (l.value? k).isSome then none
    else (k.environmentName?.bind fun name => Keyed.get? name environment).map fun value => (k, value)

/-- The last checks of a level, after those of the next level: the value of the last option, the
variables of the environment, and what is missing. -/
def finish (r : Rules) (environment : Keyed String) (hasCommand : Bool) (l : Level) :
    Except UsageError Level := do
  let l ← l.settle
  let standIns := l.standIns r environment
  if let some e := standIns.findSome? fun s => s.1.fault? s.2 then throw e
  if !hasCommand && !r.commands.isEmpty then
    throw (if l.settings.isEmpty && standIns.isEmpty then .nothingGiven else .missingSubcommand)
  if l.arguments.length < r.arguments then throw .missingRequiredArgument
  return l

end Level

end SwitchFleet.CommandLine
