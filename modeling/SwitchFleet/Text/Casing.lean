import SwitchFleet.Text.Casing.Table
import SwitchFleet.Text.Casing.UpperTable
import SwitchFleet.Text.Ranges

/-!
# Letter case

The full lower-case form of a text. Each character is mapped on its own, with two exceptions: the
capital I with dot above becomes two characters, and a capital sigma at the end of a word becomes
the final small sigma. The full upper-case form of a text, in which each character is mapped on its
own, and some to more than one character.

* `lowerChar`: the simple lower-case form of a character.
* `isFinalSigma`: whether a sigma between two texts ends a word.
* `lower`: the lower-case form of a text.
* `upperChar`, `upper`: the upper-case form of a character and of a text.
-/

namespace SwitchFleet.Text

/-- Whether a character has a case and takes part in deciding where words end. -/
def isCased (c : Char) : Bool :=
  if c.toNat < 0x80 then c.isAlpha else inRanges casedRanges c.toNat

/-- Whether a character is skipped in deciding where words end. -/
def isCaseIgnorable (c : Char) : Bool := inRanges ignorableRanges c.toNat

/-- A code point, moved by the offset of the run that it is in. -/
def movedCode (runs : List (Nat × Nat × Nat × Int)) (n : Nat) : Nat :=
  match runs.find? fun r => r.1 ≤ n && n ≤ r.2.1 && (n - r.1) % r.2.2.1 == 0 with
  | some r => (n + r.2.2.2).toNat
  | none => n

/-- The simple lower-case form of a code point above ASCII. -/
def lowerCode (n : Nat) : Nat := movedCode lowerRuns n

/-- The simple lower-case form of a character. -/
def lowerChar (c : Char) : Char :=
  if c.toNat < 0x80 then c.toLower else Char.ofNat (lowerCode c.toNat)

/-- Whether the first character that is not ignorable has a case. -/
def meetsCased (s : List Char) : Bool :=
  match s.dropWhile isCaseIgnorable with
  | c :: _ => isCased c
  | [] => false

/-- Whether a capital sigma between two texts ends a word. The text before it is read backwards. -/
def isFinalSigma (before after : List Char) : Bool :=
  meetsCased before && !meetsCased after

/-- The lower-case form of a text, after the characters in `before`, last one first. -/
def lowerAfter (before : List Char) : List Char → List Char
  | [] => []
  | c :: cs =>
    let rest := lowerAfter (c :: before) cs
    if c == 'Σ' then (if isFinalSigma before cs then 'ς' else 'σ') :: rest
    else if c == 'İ' then 'i' :: Char.ofNat 0x307 :: rest
    else lowerChar c :: rest

/-- The lower-case form of a text. -/
def lower (s : String) : String := String.ofList (lowerAfter [] s.toList)

/-- The upper-case form of a character. -/
def upperChar (c : Char) : List Char :=
  if c.toNat < 0x80 then [c.toUpper]
  else match upperExpansions.lookup c.toNat with
    | some codes => codes.map Char.ofNat
    | none => [Char.ofNat (movedCode upperRuns c.toNat)]

/-- The upper-case form of a text. -/
def upper (s : String) : String := String.ofList (s.toList.flatMap upperChar)

end SwitchFleet.Text
