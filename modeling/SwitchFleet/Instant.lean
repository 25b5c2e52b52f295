import SwitchFleet.Text.Blank
import SwitchFleet.Json.Codec

/-!
# Instants

A point in time, to the second. It is written in the form of RFC 3339 in universal time, and read
in a relaxed form of it: numbers may lack leading zeros, blanks may stand between the parts, and
fractions of a second are dropped.

* `Instant.parse?`: the instant of a text.
* `Instant.text`: the text of an instant.
-/

namespace SwitchFleet

/-- A point in time: seconds since the first of January 1970, and whether the leap second after
them is meant. -/
structure Instant where
  seconds : Int
  leap : Bool
deriving DecidableEq

namespace Instant

/-! ## Calendar -/

/-- The days from the first of January 1970 to a day of the Gregorian calendar. Years are counted
from March, so that a leap day ends its year. -/
def daysOfDate (year : Int) (month day : Nat) : Int :=
  let y := if month ≤ 2 then year - 1 else year
  let era := y.fdiv 400
  let yearOfEra := y - era * 400
  let monthFromMarch : Int := if month ≤ 2 then month + 9 else month - 3
  let dayOfYear := (153 * monthFromMarch + 2) / 5 + day - 1
  let dayOfEra := yearOfEra * 365 + yearOfEra / 4 - yearOfEra / 100 + dayOfYear
  era * 146097 + dayOfEra - 719468

/-- The year, month and day of the Gregorian calendar a number of days after the first of January
1970. -/
def dateOfDays (days : Int) : Int × Int × Int :=
  let z := days + 719468
  let era := z.fdiv 146097
  let dayOfEra := z - era * 146097
  let yearOfEra := (dayOfEra - dayOfEra / 1460 + dayOfEra / 36524 - dayOfEra / 146096) / 365
  let dayOfYear := dayOfEra - (365 * yearOfEra + yearOfEra / 4 - yearOfEra / 100)
  let monthFromMarch := (5 * dayOfYear + 2) / 153
  let day := dayOfYear - (153 * monthFromMarch + 2) / 5 + 1
  let month := if monthFromMarch < 10 then monthFromMarch + 3 else monthFromMarch - 9
  (yearOfEra + era * 400 + if month ≤ 2 then 1 else 0, month, day)

def isLeapYear (year : Int) : Bool := year % 4 == 0 && (year % 100 != 0 || year % 400 == 0)

/-- The number of days of a month. -/
def daysOfMonth (year : Int) (month : Nat) : Nat :=
  if month = 2 then if isLeapYear year then 29 else 28
  else if month = 4 ∨ month = 6 ∨ month = 9 ∨ month = 11 then 30 else 31

/-! ## Reading -/

/-- A text without the blanks at its start. -/
def skipBlanks (s : List Char) : List Char := s.dropWhile Text.isBlank

/-- A number of at least one and at most `most` digits, after blanks, and the text after it. -/
def number? (most : Nat) (s : List Char) : Option (Nat × List Char) :=
  let s := skipBlanks s
  let ds := (s.takeWhile Char.isDigit).take most
  if ds.isEmpty then none
  else (Text.digitsAfter 0 ds).map fun n => (n, s.drop ds.length)

/-- A year. It has at most four digits, or a sign and any number of digits. -/
def year? (s : List Char) : Option (Int × List Char) :=
  match skipBlanks s with
  | '-' :: c :: s =>
    if c.isDigit then (number? (s.length + 1) (c :: s)).map fun r => (-(r.1 : Int), r.2) else none
  | '+' :: c :: s =>
    if c.isDigit then (number? (s.length + 1) (c :: s)).map fun r => ((r.1 : Int), r.2) else none
  | s => (number? 4 s).map fun r => ((r.1 : Int), r.2)

/-- The text after a separator, which may follow blanks. -/
def separator? (c : Char) (s : List Char) : Option (List Char) :=
  match skipBlanks s with
  | d :: s => if c = d then some s else none
  | [] => none

/-- The text after a fraction of a second, if there is one. A point needs a digit after it. -/
def fraction? (s : List Char) : Option (List Char) :=
  match s with
  | '.' :: s =>
    if (s.takeWhile Char.isDigit).isEmpty then none else some (s.dropWhile Char.isDigit)
  | s => some s

/-- Two digits below a bound. -/
def twoDigits? (bound : Nat) : List Char → Option (Nat × List Char)
  | a :: b :: s =>
    (Text.digitsAfter 0 [a, b]).bind fun n => if n < bound then some (n, s) else none
  | _ => none

/-- The distance from universal time in seconds. -/
def offset? (s : List Char) : Option (Int × List Char) :=
  let signed (sign : Int) (s : List Char) : Option (Int × List Char) := do
    let (hours, s) ← twoDigits? 100 s
    let (minutes, s) ← twoDigits? 60 (s.dropWhile fun c => c == ':' || Text.isBlank c)
    let distance : Nat := hours * 3600 + minutes * 60
    if distance < 86400 then return (sign * distance, s) else none
  if (s.take 3).map Char.toUpper == ['U', 'T', 'C'] then some (0, s.drop 3)
  else match s with
    | 'Z' :: s => some (0, s)
    | 'z' :: s => some (0, s)
    | '+' :: s => signed 1 s
    | '-' :: s => signed (-1) s
    | '−' :: s => signed (-1) s
    | _ => none

/-- The instant of a text. -/
def parse? (text : String) : Option Instant := do
  let (year, s) ← year? text.toList
  let (month, s) ← number? 2 (← separator? '-' s)
  let (day, s) ← number? 2 (← separator? '-' s)
  let s ← match s with
    | 'T' :: s => some s
    | 't' :: s => some s
    | ' ' :: s => some s
    | _ => none
  let (hour, s) ← number? 2 s
  let (minute, s) ← number? 2 (← separator? ':' s)
  let (second, s) ← number? 2 (← separator? ':' s)
  let s ← fraction? s
  let (offset, s) ← offset? (skipBlanks s)
  if !(skipBlanks s).isEmpty then none
  else if year.natAbs > 262142 || month < 1 || 12 < month || day < 1 ||
      daysOfMonth year month < day || 23 < hour || 59 < minute || 60 < second then none
  else
    let leap := second == 60
    let clock : Int := hour * 3600 + minute * 60 + if leap then 59 else second
    return ⟨daysOfDate year month day * 86400 + clock - offset, leap⟩

/-! ## Writing -/

/-- A number with at least two digits. -/
def twoDigits (n : Int) : String := if n < 10 then "0" ++ toString n else toString n

/-- A number with zeros in front of it, up to four digits. -/
def fourDigits (n : Nat) : String :=
  let ds := toString n
  String.ofList (List.replicate (4 - ds.length) '0') ++ ds

/-- A year with at least four digits. Years outside of these have a sign. -/
def yearText (year : Int) : String :=
  if 0 ≤ year ∧ year ≤ 9999 then fourDigits year.toNat
  else (if year < 0 then "-" else "+") ++ fourDigits year.natAbs

def text (t : Instant) : String :=
  let days := t.seconds.fdiv 86400
  let clock := t.seconds - days * 86400
  let (year, month, day) := dateOfDays days
  let second := clock % 60 + if t.leap then 1 else 0
  yearText year ++ "-" ++ twoDigits month ++ "-" ++ twoDigits day ++ "T" ++
    twoDigits (clock / 3600) ++ ":" ++ twoDigits (clock / 60 % 60) ++ ":" ++ twoDigits second ++ "Z"

def codec : Codec Instant where
  encode t := .string t.text
  decode
    | .string (some s) => match parse? s with
      | some t => .ok t
      | none => .error .mismatch
    | d => .error d.fault

end Instant

end SwitchFleet
