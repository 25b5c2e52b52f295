import SwitchFleet.Json.Basic

/-!
# JSON documents

What a reader finds in a JSON text: the members of an object in the order of the text, with
repeated names, and the places where the text has no value. A string may hold an unpaired
surrogate, a number may lie outside the range of numbers, and the grammar may break off.

* `Document.isWhole`: whether the grammar holds up to the end.
* `Document.value?`: the value of a document, if every part of it has one.
* `Json.document`: a value as a document.
-/

namespace SwitchFleet

/-- What a reader finds in a JSON text. -/
inductive Document where
  | null
  | bool (b : Bool)
  /-- A number, or nothing if it is out of range. -/
  | number (n : Option Number)
  /-- A string, or nothing if it holds an unpaired surrogate. -/
  | string (s : Option String)
  | array (items : List Document)
  /-- An object. A name that holds an unpaired surrogate is missing. -/
  | object (members : List (Option String × Document))
  /-- The place where the grammar breaks off. -/
  | broken

namespace Document

mutual

def isWhole : Document → Bool
  | .array xs => wholeItems xs
  | .object ms => wholeMembers ms
  | .broken => false
  | _ => true

/-- Whether the grammar holds in all items. -/
def wholeItems : List Document → Bool
  | [] => true
  | x :: xs => x.isWhole && wholeItems xs

/-- Whether the grammar holds in all members. -/
def wholeMembers : List (Option String × Document) → Bool
  | [] => true
  | (_, x) :: ms => x.isWhole && wholeMembers ms

end

mutual

/-- The value of a document, if every part of it has one. The last member of a name counts. -/
def value? : Document → Option Json
  | .null => some .null
  | .bool b => some (.bool b)
  | .number n => n.map .number
  | .string s => s.map .string
  | .array xs => (itemValues? xs).map .array
  | .object ms => (memberValues? ms).map Json.ofMembers
  | .broken => none

/-- The values of items. -/
def itemValues? : List Document → Option (List Json)
  | [] => some []
  | x :: xs => x.value?.bind fun v => (itemValues? xs).map (v :: ·)

/-- The values of members, in the order of the text. -/
def memberValues? : List (Option String × Document) → Option (List (String × Json))
  | [] => some []
  | (k, x) :: ms =>
    k.bind fun k => x.value?.bind fun v => (memberValues? ms).map ((k, v) :: ·)

end

end Document

namespace Json

mutual

/-- A value as a document. -/
def document : Json → Document
  | .null => .null
  | .bool b => .bool b
  | .number n => .number (some n)
  | .string s => .string (some s)
  | .array xs => .array (itemDocuments xs)
  | .object ms => .object (memberDocuments ms)

/-- Values as documents. -/
def itemDocuments : List Json → List Document
  | [] => []
  | x :: xs => x.document :: itemDocuments xs

/-- Members as members of a document. -/
def memberDocuments : List (String × Json) → List (Option String × Document)
  | [] => []
  | (k, x) :: ms => (some k, x.document) :: memberDocuments ms

end

end Json

end SwitchFleet
