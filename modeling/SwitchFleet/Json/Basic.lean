import SwitchFleet.Binary64
import SwitchFleet.Keyed

/-!
# JSON values

A JSON value. Its objects are maps keyed by name, so two values that differ only in the order of
their members are one value. Numbers written without a point and an exponent are integers, all
others are binary64 numbers, and the two never compare equal.

* `Json.same`: equality, where numbers are compared as numbers.
* `Json.Canonical`: the values whose objects are ordered.
* `Json.object`: the object with given members.
-/

namespace SwitchFleet

/-- A number of a JSON text. -/
inductive Number where
  | int (n : Int)
  | float (x : Binary64)
deriving DecidableEq

/-- Equality of numbers. An integer never equals a binary64 number. -/
def Number.same : Number → Number → Bool
  | .int m, .int n => m == n
  | .float x, .float y => x.same y
  | _, _ => false

/-- A JSON value. -/
inductive Json where
  | null
  | bool (b : Bool)
  | number (n : Number)
  | string (s : String)
  | array (items : List Json)
  | object (members : List (String × Json))

namespace Json

instance : Inhabited Json := ⟨.null⟩

mutual

/-- Equality of values. -/
def same : Json → Json → Bool
  | .null, .null => true
  | .bool a, .bool b => a == b
  | .number m, .number n => m.same n
  | .string s, .string t => s == t
  | .array xs, .array ys => sameItems xs ys
  | .object ms, .object ns => sameMembers ms ns
  | _, _ => false

/-- Equality of lists of values. -/
def sameItems : List Json → List Json → Bool
  | [], [] => true
  | x :: xs, y :: ys => x.same y && sameItems xs ys
  | _, _ => false

/-- Equality of lists of members. -/
def sameMembers : List (String × Json) → List (String × Json) → Bool
  | [], [] => true
  | (k, x) :: ms, (l, y) :: ns => k == l && x.same y && sameMembers ms ns
  | _, _ => false

end

mutual

/-- The values all of whose objects are in order. -/
def Canonical : Json → Prop
  | .array xs => CanonicalItems xs
  | .object ms => Keyed.Sorted ms ∧ CanonicalMembers ms
  | _ => True

/-- The lists of values all of whose objects are in order. -/
def CanonicalItems : List Json → Prop
  | [] => True
  | x :: xs => x.Canonical ∧ CanonicalItems xs

/-- The lists of members all of whose objects are in order. -/
def CanonicalMembers : List (String × Json) → Prop
  | [] => True
  | (_, x) :: ms => x.Canonical ∧ CanonicalMembers ms

end

/-- The object with the given members. The last member of a name counts. -/
def ofMembers (members : List (String × Json)) : Json := .object (Keyed.ofList members)

/-- An integer. -/
def int (n : Int) : Json := .number (.int n)

/-- An array of strings. -/
def strings (ss : List String) : Json := .array (ss.map .string)

/-- The members of an object. -/
def members? : Json → Option (Keyed Json)
  | .object ms => some ms
  | _ => none

def isObject (v : Json) : Bool := v.members?.isSome

def isNull : Json → Bool
  | .null => true
  | _ => false

def get? (name : String) (v : Json) : Option Json :=
  v.members?.bind (Keyed.get? name)

end Json

end SwitchFleet
