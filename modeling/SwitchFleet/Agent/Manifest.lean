import SwitchFleet.Keyed
import SwitchFleet.Text.Blank
import SwitchFleet.Text.Cut

/-!
# Version manifests

A manifest is a text that describes the software of a device. Each line is a key and a value with a
colon between them. Blank lines, comments and separators are passed over.

* `Manifest.entry?`: the entry of a line.
* `Manifest.parse`: the entries of a text, where the last line of a key counts.
-/

namespace SwitchFleet.Manifest

/-- Whether a line without blanks at its ends holds no entry, whatever else it holds: it is empty, a
comment, or a separator. -/
def isSkipped : List Char → Bool
  | [] => true
  | '#' :: _ => true
  | '-' :: '-' :: '-' :: _ => true
  | _ => false

/-- The marks that may stand around a value. -/
def isQuote (c : Char) : Bool := c == '\'' || c == '"'

/-- The entry of a line. The first colon ends the key. -/
def entry? (line : List Char) : Option (String × String) :=
  let line := Text.trim line
  if isSkipped line then none
  else (Text.cutAt ':' line).map fun e =>
    (String.ofList (Text.trim e.1), String.ofList (Text.trimMatches isQuote (Text.trim e.2)))

/-- The entries of a text. -/
def parse (s : String) : Keyed String := Keyed.ofList ((Text.lines s.toList).filterMap entry?)

end SwitchFleet.Manifest
