import SwitchFleet.Text.Cut

/-!
# Media types

A media type names a type and a subtype, and may have parameters after them.

* `MediaType.isJson`: whether a text is a media type for JSON.
-/

namespace SwitchFleet.Http.MediaType

/-- The characters of the words of a media type. -/
def isWordChar (c : Char) : Bool :=
  c.isAlphanum || "!#$%&'*+-.^_\x60|~".contains c

def isWord (s : List Char) : Bool := !s.isEmpty && s.all isWordChar

/-- The characters that may stand between quotes. -/
def isQuotedChar (c : Char) : Bool := 0x20 ≤ c.toNat && c.toNat < 0x7F && c != '"'

/-- Whether a text is the value of a parameter: a word, or anything between quotes. -/
def isValue (s : List Char) : Bool :=
  match s with
  | '"' :: s => s.getLast? == some '"' && s.dropLast.all isQuotedChar
  | s => isWord s

/-- Whether a text is a parameter. Spaces before it do not count. -/
def isParameter (s : List Char) : Bool :=
  match Text.cutAt '=' (s.dropWhile (· == ' ')) with
  | some (name, value) => isWord name && isValue value
  | none => false

/-- A text cut at the semicolons outside quotes. The characters in `before` stand before the text,
last one first. -/
def cutParameters (quoted : Bool) (before : List Char) : List Char → List (List Char)
  | [] => [before.reverse]
  | c :: cs =>
    if c == ';' && !quoted then before.reverse :: cutParameters false [] cs
    else cutParameters (if c == '"' then !quoted else quoted) (c :: before) cs

/-- Whether texts are parameters. Blank space may follow the last semicolon. -/
def areParameters : List (List Char) → Bool
  | [] => true
  | [s] => s.all (· == ' ') || isParameter s
  | s :: ss => isParameter s && areParameters ss

/-- Whether a subtype stands for JSON: on its own, or as what comes after the last plus sign. -/
def isJsonSubtype (s : List Char) : Bool :=
  let suffix := (s.reverse.takeWhile (· != '+')).reverse
  let stem := s.take (s.length - suffix.length - 1)
  if stem.isEmpty then s == "json".toList
  else suffix == "json".toList || stem == "json".toList

/-- Whether a text is a media type for JSON, in letters of any case. -/
def isJson (text : String) : Bool :=
  match cutParameters false [] text.toList with
  | [] => false
  | name :: parameters =>
    match Text.cutAt '/' (name.map Char.toLower) with
    | none => false
    | some (type, subtype) =>
      type == "application".toList && isWord subtype && isJsonSubtype subtype &&
        areParameters parameters

def json : String := "application/json"

/-- The media type of plain texts. -/
def plain : String := "text/plain; charset=utf-8"

end SwitchFleet.Http.MediaType
