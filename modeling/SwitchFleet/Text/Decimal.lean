/-!
# Decimal numerals

* `natural?`: an unsigned number written in decimal digits, with or without a plus sign.
* `bounded?`: such a number below a bound.
-/

namespace SwitchFleet.Text

def digit? (c : Char) : Option Nat :=
  if c.isDigit then some (c.toNat - '0'.toNat) else none

/-- The number with the digits of `s` after those of `n`. -/
def digitsAfter (n : Nat) : List Char → Option Nat
  | [] => some n
  | c :: cs => (digit? c).bind fun d => digitsAfter (10 * n + d) cs

/-- An unsigned decimal numeral. A plus sign may stand before its digits. -/
def natural? (s : List Char) : Option Nat :=
  match s with
  | '+' :: ds => if ds.isEmpty then none else digitsAfter 0 ds
  | ds => if ds.isEmpty then none else digitsAfter 0 ds

/-- An unsigned decimal numeral whose value is below a bound. -/
def bounded? (bound : Nat) (s : String) : Option Nat :=
  (natural? s.toList).filter (· < bound)

end SwitchFleet.Text
