/-!
# Double-precision numbers

The finite numbers of the format binary64, in exact arithmetic: a number is a sign and a natural
number of units, where a unit is the smallest positive number of the format, `2 ^ (-1074)`.

* `roundUnits`: the number of the format nearest to a quotient, ties to even.
* `ofDecimal?`: a decimal numeral, read with one rounding for its digits and one for each
  scaling by a power of ten.
* `shortest`: the fewest decimal digits that round to a number, and the nearest such digits.
-/

namespace SwitchFleet

/-- A finite number of the format binary64: its sign and its magnitude in units of `2 ^ (-1074)`. -/
structure Binary64 where
  negative : Bool
  units : Nat
deriving DecidableEq

namespace Binary64

/-! ## Rounding -/

/-- The unit `1` as a number of smallest units. -/
def one : Nat := Nat.pow 2 1074

/-- The largest magnitude of the format. -/
def maxUnits : Nat := (Nat.pow 2 53 - 1) * Nat.pow 2 2045

/-- The distance from a magnitude to the next larger one of the format. -/
def gap (units : Nat) : Nat := Nat.pow 2 (units.log2 - 52)

/-- A quotient rounded to the nearest integer, a half to the even one. -/
def roundQuotient (num den : Nat) : Nat :=
  let q := num / den
  let twice := 2 * (num % den)
  if twice < den || (twice == den && q % 2 == 0) then q else q + 1

/-- The magnitude of the format nearest to a quotient, ties to even. -/
def roundUnits (num den : Nat) : Nat :=
  let g := gap (num / den)
  roundQuotient num (den * g) * g

/-- Two numbers are equal as numbers: the zeros of both signs are one. -/
def same (x y : Binary64) : Bool :=
  x == y || (x.units == 0 && y.units == 0)

/-! ## Reading decimal numerals -/

/-- The magnitude nearest to a power of ten. -/
def powerOfTen (n : Nat) : Nat := roundUnits (Nat.pow 10 n * one) 1

/-- A magnitude scaled by a power of ten, if it stays in the format. A negative power takes
steps of at most `10 ^ 308`. -/
def scale (units : Nat) (exponent : Int) : Option Nat :=
  if 0 ≤ exponent then
    if 308 < exponent then if units = 0 then some 0 else none
    else
      let r := roundUnits (units * powerOfTen exponent.toNat) one
      if maxUnits < r then none else some r
  else if exponent < -308 then
    if units = 0 then some 0
    else scale (roundUnits (units * one) (powerOfTen 308)) (exponent + 308)
  else some (roundUnits (units * one) (powerOfTen (-exponent).toNat))
termination_by (-exponent).toNat
decreasing_by omega

/-- The number written with a sign, digits, and a power of ten, if it stays in the format. -/
def ofDecimal? (negative : Bool) (digits : Nat) (exponent : Int) : Option Binary64 :=
  (scale (roundUnits (digits * one) 1) exponent).map (⟨negative, ·⟩)

/-! ## The shortest decimal digits -/

/-- Whether `d · 10 ^ k` rounds to a magnitude. All terms are compared in quarters of a unit. -/
def roundsTo (units d : Nat) (k : Int) : Bool :=
  let g := gap units
  let below := if units == g * Nat.pow 2 52 && 1 < g then g else 2 * g
  let x := d * (Nat.pow 10 k.toNat * (4 * one))
  let den := Nat.pow 10 (-k).toNat
  let low := (4 * units - below) * den
  let high := (4 * units + 2 * g) * den
  if (units / g) % 2 == 0 then low ≤ x && x ≤ high else low < x && x < high

/-- The multiple of `10 ^ k` that rounds to a magnitude and is nearest to it. -/
def nearestOn? (units : Nat) (k : Int) : Option Nat :=
  let step := Nat.pow 10 k.toNat * one
  let value := units * Nat.pow 10 (-k).toNat
  let d := value / step
  let twice := 2 * (value % step)
  let upper := step < twice || (twice == step && d % 2 == 1)
  match decide (0 < d) && roundsTo units d k, roundsTo units (d + 1) k with
  | true, true => some (if upper then d + 1 else d)
  | true, false => some d
  | false, true => some (d + 1)
  | false, false => none

/-- The digits on the coarsest decimal grid, from `10 ^ k` down, with a point that rounds to a
magnitude. Seventeen digits always suffice, and one grid is one digit more. -/
def shortestFrom (units : Nat) : Nat → Int → Nat × Int
  | 0, k => (units * Nat.pow 10 (-k).toNat / (Nat.pow 10 k.toNat * one), k)
  | grids + 1, k =>
    match nearestOn? units k with
    | some d => (d, k)
    | none => shortestFrom units grids (k - 1)

/-- The fewest decimal digits that round to a positive magnitude, and the power of ten that
scales them. -/
def shortest (units : Nat) : Nat × Int :=
  shortestFrom units 24 ((units.log2 - 1073 : Int) * 30103 / 100000 + 1)

/-! ## Writing -/

/-- The text of a positive magnitude. Numbers from `10 ^ (-5)` up to `10 ^ 16` are written
positionally with at least one decimal, all others with an exponent. -/
def magnitudeText (units : Nat) : List Char :=
  let (d, k) := shortest units
  let ds := Nat.toDigits 10 d
  let point := ds.length + k
  if 0 ≤ k && point ≤ 16 then ds ++ List.replicate k.toNat '0' ++ ".0".toList
  else if 0 < point && point ≤ 16 then ds.take point.toNat ++ '.' :: ds.drop point.toNat
  else if -5 < point && point ≤ 0 then "0.".toList ++ List.replicate (-point).toNat '0' ++ ds
  else
    let rest := if ds.length = 1 then [] else '.' :: ds.drop 1
    ds.take 1 ++ rest ++ 'e' :: (toString (point - 1)).toList

def text (x : Binary64) : List Char :=
  let magnitude := if x.units = 0 then "0.0".toList else magnitudeText x.units
  if x.negative then '-' :: magnitude else magnitude

end Binary64

end SwitchFleet
