/-!
# Cutting texts

* `afterStart?`: the rest of a string after a given beginning.
* `contains`: whether a text holds another one.
* `cutAt`: a text before and after the first occurrence of a character.
* `lines`: the lines of a text, without their line breaks.
-/

namespace SwitchFleet.Text

/-- The rest of a string after a given beginning. -/
def afterStart? (start s : String) : Option String :=
  if start.toList.isPrefixOf s.toList then
    some (String.ofList (s.toList.drop start.toList.length))
  else none

def contains (part : List Char) : List Char → Bool
  | [] => part.isEmpty
  | c :: cs => part.isPrefixOf (c :: cs) || contains part cs

/-- A text before and after the first occurrence of a character, if there is one. -/
def cutAt (sep : Char) : List Char → Option (List Char × List Char)
  | [] => none
  | c :: cs =>
    if c == sep then some ([], cs)
    else (cutAt sep cs).map fun r => (c :: r.1, r.2)

/-- A line without the carriage return that belongs to its line break. -/
def withoutReturn (line : List Char) : List Char :=
  if line.getLast? == some '\r' then line.dropLast else line

/-- The lines of a text, the first of which starts with `before`, read backwards. A line break
is a line feed, with or without a carriage return before it. The last line may lack one. -/
def linesAfter (before : List Char) : List Char → List (List Char)
  | [] => if before.isEmpty then [] else [before.reverse]
  | c :: cs =>
    if c == '\n' then withoutReturn before.reverse :: linesAfter [] cs
    else linesAfter (c :: before) cs

/-- The lines of a text, without their line breaks. -/
def lines (s : List Char) : List (List Char) := linesAfter [] s

end SwitchFleet.Text
