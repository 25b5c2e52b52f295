import SwitchFleet.Json.Basic
import SwitchFleet.Text.Quoted

/-!
# JSON texts, written

The compact text of a value: no blanks, and the members of an object in ascending order of name.

* `Json.render`: the text of a value.
-/

namespace SwitchFleet.Json

/-- One character of a string. Quotes, backslashes and controls are escaped. -/
def escape (c : Char) : List Char :=
  match c with
  | '"' => ['\\', '"']
  | '\\' => ['\\', '\\']
  | '\x08' => ['\\', 'b']
  | '\x0c' => ['\\', 'f']
  | '\n' => ['\\', 'n']
  | '\r' => ['\\', 'r']
  | '\t' => ['\\', 't']
  | c =>
    if c.toNat < 0x20 then
      let ds := Text.hex c.toNat
      '\\' :: 'u' :: List.replicate (4 - ds.length) '0' ++ ds
    else [c]

/-- The text of a string. -/
def stringChars (s : String) : List Char := '"' :: s.toList.flatMap escape ++ ['"']

/-- The text of a number. -/
def numberChars : Number → List Char
  | .int n => (toString n).toList
  | .float x => x.text

mutual

/-- The characters of the text of a value. -/
def chars : Json → List Char
  | .null => "null".toList
  | .bool b => (toString b).toList
  | .number n => numberChars n
  | .string s => stringChars s
  | .array xs => '[' :: itemChars xs ++ [']']
  | .object ms => '\x7b' :: memberChars ms ++ ['\x7d']

/-- The characters of items, with commas between them. -/
def itemChars : List Json → List Char
  | [] => []
  | [x] => x.chars
  | x :: xs => x.chars ++ ',' :: itemChars xs

/-- The characters of members, with commas between them. -/
def memberChars : List (String × Json) → List Char
  | [] => []
  | [(k, x)] => stringChars k ++ ':' :: x.chars
  | (k, x) :: ms => stringChars k ++ ':' :: x.chars ++ ',' :: memberChars ms

end

/-- The compact text of a value. -/
def render (v : Json) : String := String.ofList v.chars

end SwitchFleet.Json
