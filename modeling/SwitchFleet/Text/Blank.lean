/-!
# Blank characters

The white space of Unicode, and the removal of it at the ends of a text.

* `isBlank`: the characters with the property `White_Space`.
* `trim`, `trimEnd`: a text without the blanks at both ends, or at its end.
* `trimMatches`: a text without the characters of a class at both ends.
-/

namespace SwitchFleet.Text

/-- The characters with the Unicode property `White_Space`. -/
def isBlank (c : Char) : Bool :=
  let n := c.toNat
  (9 ≤ n && n ≤ 13) || n == 0x20 || n == 0x85 || n == 0xA0 || n == 0x1680 ||
    (0x2000 ≤ n && n ≤ 0x200A) || n == 0x2028 || n == 0x2029 || n == 0x202F ||
    n == 0x205F || n == 0x3000

/-- A list without the longest end that lies in a class. -/
def dropEndWhile {α : Type} (p : α → Bool) (l : List α) : List α :=
  (l.reverse.dropWhile p).reverse

/-- A text without the characters of a class at both ends. -/
def trimMatches (p : Char → Bool) (s : List Char) : List Char :=
  dropEndWhile p (s.dropWhile p)

/-- A text without the blanks at both ends. -/
def trim (s : List Char) : List Char := trimMatches isBlank s

/-- A text without the blanks at its end. -/
def trimEnd (s : List Char) : List Char := dropEndWhile isBlank s

/-- A text without the blanks at its end, as a string. -/
def trimEndString (s : String) : String := String.ofList (trimEnd s.toList)

end SwitchFleet.Text
