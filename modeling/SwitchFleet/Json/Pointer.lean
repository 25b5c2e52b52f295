import SwitchFleet.Json.Basic
import SwitchFleet.Text.Decimal

/-!
# Pointers into JSON values

A pointer names a part of a value by the path to it: each step is a slash and the name of a member
or the index of an item.

* `Json.at?`: the part of a value that a pointer names.
-/

namespace SwitchFleet.Json

/-- The name that a step of a pointer stands for: `~1` is a slash and `~0` a tilde. -/
def stepName : List Char → List Char
  | [] => []
  | '~' :: '1' :: cs => '/' :: stepName cs
  | '~' :: '0' :: cs => '~' :: stepName cs
  | c :: cs => c :: stepName cs

/-- The index that a step of a pointer stands for. It has no sign and no leading zeros. -/
def stepIndex? (s : List Char) : Option Nat :=
  match s with
  | '+' :: _ => none
  | '0' :: _ :: _ => none
  | s => Text.natural? s

/-- The part of a value that one step leads to. -/
def step? (s : List Char) : Json → Option Json
  | .object ms => Keyed.get? (String.ofList (stepName s)) ms
  | .array xs => (stepIndex? s).bind fun i => xs[i]?
  | _ => none

/-- The part of a value that a pointer names. The empty pointer names the whole value. -/
def at? (pointer : String) (v : Json) : Option Json :=
  match pointer.splitOn "/" with
  | "" :: steps => steps.foldlM (fun v s => step? s.toList v) v
  | _ => none

end SwitchFleet.Json
