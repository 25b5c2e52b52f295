import SwitchFleet.Text.Visible

/-!
# Quoted texts

A text between double quotes, on one line. Quotes, backslashes and the common controls are written
with a backslash, and every other character that is not visible by its code point.

* `quoteChar`: one character inside the quotes.
* `quote`: a text with its quotes.
-/

namespace SwitchFleet.Text

/-- A number in lower-case hexadecimal. -/
def hex (n : Nat) : List Char := Nat.toDigits 16 n

/-- One character of a quoted text. -/
def quoteChar (c : Char) : List Char :=
  match c with
  | '\x00' => ['\\', '0']
  | '\t' => ['\\', 't']
  | '\r' => ['\\', 'r']
  | '\n' => ['\\', 'n']
  | '"' => ['\\', '"']
  | '\\' => ['\\', '\\']
  | c => if isVisible c then [c] else "\\u\x7b".toList ++ hex c.toNat ++ ['}']

/-- A text between quotes. -/
def quote (s : String) : String :=
  String.ofList ('"' :: s.toList.flatMap quoteChar ++ ['"'])

end SwitchFleet.Text
