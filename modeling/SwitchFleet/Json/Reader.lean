import SwitchFleet.Json.Token
import SwitchFleet.Json.Document

/-!
# JSON texts, read

A text is read into a document, token by token, with a stack of the arrays and objects that are
open. Where the grammar breaks off, everything read so far is kept and the place is marked.

* `Document.read`: the document of a list of tokens, and the tokens after it.
* `Reading`: the document of a text, and whether the text ends with it.
* `Json.parse?`: the value of a text.
-/

namespace SwitchFleet

namespace Document

/-- An open array or object, with what it holds so far, last first. -/
inductive Frame where
  | array (items : List Document)
  | object (members : List (Option String × Document))
  /-- An object whose next member has its name already. -/
  | member (members : List (Option String × Document)) (name : Option String)

/-- What the grammar expects. -/
inductive Expected where
  | value
  | firstItem
  | firstName
  | name
  | colon
  | next

/-- A frame with a document added to it. -/
def Frame.push (d : Document) : Frame → Frame
  | .array items => .array (d :: items)
  | .object members => .object ((none, d) :: members)
  | .member members name => .object ((name, d) :: members)

/-- The document of a frame that is closed. -/
def Frame.document : Frame → Document
  | .array items => .array items.reverse
  | .object members => .object members.reverse
  | .member members name => .object ((name, .broken) :: members).reverse

/-- The document of a stack where the grammar breaks off. -/
def breakOff (stack : List Frame) : Document :=
  stack.foldl (fun d f => (f.push d).document) .broken

/-- The document of a token that is a value of its own. -/
def scalar? : Json.Token → Option Document
  | .null => some .null
  | .bool b => some (.bool b)
  | .number n => some (.number n)
  | .string s => some (.string s)
  | _ => none

/-- The document of a list of tokens, and the tokens after it. -/
def read : Expected → List Frame → List Json.Token → Document × List Json.Token
  | _, stack, [] => (breakOff stack, [])
  | expected, stack, t :: ts =>
    let complete (d : Document) (stack : List Frame) : Document × List Json.Token :=
      match stack with
      | [] => (d, ts)
      | f :: stack => read .next (f.push d :: stack) ts
    match expected, t, stack with
    | .firstItem, .closeArray, f :: stack => complete f.document stack
    | .firstItem, .openArray, _ | .value, .openArray, _ => read .firstItem (.array [] :: stack) ts
    | .firstItem, .openObject, _ | .value, .openObject, _ => read .firstName (.object [] :: stack) ts
    | .firstItem, t, _ | .value, t, _ =>
      match scalar? t with
      | some d => complete d stack
      | none => (breakOff stack, [])
    | .firstName, .closeObject, f :: stack => complete f.document stack
    | .firstName, .string n, .object ms :: stack => read .colon (.member ms n :: stack) ts
    | .name, .string n, .object ms :: stack => read .colon (.member ms n :: stack) ts
    | .colon, .colon, stack => read .value stack ts
    | .next, .comma, .array xs :: stack => read .value (.array xs :: stack) ts
    | .next, .comma, .object ms :: stack => read .name (.object ms :: stack) ts
    | .next, .closeArray, .array xs :: stack => complete (Frame.array xs).document stack
    | .next, .closeObject, .object ms :: stack => complete (Frame.object ms).document stack
    | _, _, stack => (breakOff stack, [])

end Document

/-- The document of a text, and whether the text ends with it. -/
structure Reading where
  document : Document
  atEnd : Bool

/-- The document of a text. -/
def Reading.ofText (s : String) : Reading :=
  let r := Document.read .value [] (Json.tokens s.toList)
  ⟨r.1, r.2.isEmpty⟩

/-- The value of a text. -/
def Json.parse? (s : String) : Option Json :=
  let r := Reading.ofText s
  if r.atEnd then r.document.value? else none

end SwitchFleet
