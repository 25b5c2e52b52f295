import SwitchFleet.Json.Reader
import SwitchFleet.Json.Writer

/-!
# Codecs

How values of the program's own types are written as JSON and read back.

A document is read in the order of its text, and the first fault counts. There are two kinds of
fault: the text breaks the grammar, or a part of it has another shape than the type asks for.

* `Codec`: a writer and a reader for one type.
* `Codec.text`, `Codec.word32`, `Codec.list`, `Codec.names`, …: the codecs of simple types.
* `Record`: the fields of a structure, from which its codec is built. A structure is written as an
  object, and read from an object, or from an array of its fields in the order of their declaration.
* `Codec.decodeText`: the value of a text.
-/

namespace SwitchFleet

/-- Why a document has no value of some type. -/
inductive Fault where
  /-- The text breaks the grammar. -/
  | malformed
  /-- A part of the text has another shape than the type asks for. -/
  | mismatch
deriving DecidableEq

/-- The fault of a document that has another shape than asked for. -/
def Document.fault : Document → Fault
  | .number none => .malformed
  | .string none => .malformed
  | .broken => .malformed
  | _ => .mismatch

/-- A writer and a reader for one type. -/
structure Codec (α : Type) where
  encode : α → Json
  decode : Document → Except Fault α

namespace Codec

variable {α : Type}

/-- The value of a text. Nothing may follow the value. -/
def decodeText (c : Codec α) (s : String) : Except Fault α := do
  let r := Reading.ofText s
  let x ← c.decode r.document
  if r.atEnd then return x else throw .malformed

/-- The value of a JSON value. -/
def decodeJson (c : Codec α) (v : Json) : Except Fault α := c.decode v.document

/-- The value written as a compact text. -/
def encodeText (c : Codec α) (x : α) : String := (c.encode x).render

/-! ## Simple types -/

/-- Strings. -/
def text : Codec String where
  encode := .string
  decode
    | .string (some s) => .ok s
    | d => .error d.fault

/-- Truth values. -/
def bool : Codec Bool where
  encode := .bool
  decode
    | .bool b => .ok b
    | d => .error d.fault

/-- Unsigned integers of 32 bits. -/
def word32 : Codec UInt32 where
  encode n := .int n.toNat
  decode
    | .number (some (.int n)) =>
      if 0 ≤ n ∧ n < UInt32.size then .ok (UInt32.ofNat n.toNat) else .error .mismatch
    | d => .error d.fault

/-- Unsigned integers of 16 bits. -/
def word16 : Codec UInt16 where
  encode n := .int n.toNat
  decode
    | .number (some (.int n)) =>
      if 0 ≤ n ∧ n < UInt16.size then .ok (UInt16.ofNat n.toNat) else .error .mismatch
    | d => .error d.fault

/-- Signed integers of 64 bits. -/
def int64 : Codec Int64 where
  encode n := .int n.toInt
  decode
    | .number (some (.int n)) =>
      if Int64.minValue.toInt ≤ n ∧ n ≤ Int64.maxValue.toInt then .ok (Int64.ofInt n) else .error .mismatch
    | d => .error d.fault

/-- All JSON values. -/
def json : Codec Json where
  encode v := v
  decode d := match d.value? with
    | some v => .ok v
    | none => .error .malformed

/-- A value, or `null` for none. -/
def option (c : Codec α) : Codec (Option α) where
  encode
    | none => .null
    | some x => c.encode x
  decode
    | .null => .ok none
    | d => (c.decode d).map some

/-- The values of a list of documents, in order. -/
def decodeItems (c : Codec α) : List Document → Except Fault (List α)
  | [] => .ok []
  | d :: ds => do return (← c.decode d) :: (← decodeItems c ds)

/-- Lists, as arrays. -/
def list (c : Codec α) : Codec (List α) where
  encode xs := .array (xs.map c.encode)
  decode
    | .array ds => decodeItems c ds
    | d => .error d.fault

/-- The entries of a list of members, in order. -/
def decodeEntries (c : Codec α) :
    List (Option String × Document) → Except Fault (List (String × α))
  | [] => .ok []
  | (none, _) :: _ => .error .malformed
  | (some k, d) :: ms => do return (k, ← c.decode d) :: (← decodeEntries c ms)

/-- Maps, as objects. The last member of a name counts. -/
def keyed (c : Codec α) : Codec (Keyed α) where
  encode m := .object (m.map fun e => (e.1, c.encode e.2))
  decode
    | .object ms => do return Keyed.ofList (← decodeEntries c ms)
    | d => .error d.fault

/-- The value of an enumeration with a given name. -/
def ofName (all : List α) (name : α → String) (s : String) : Except Fault α :=
  match all.find? fun x => name x == s with
  | some x => .ok x
  | none => .error .mismatch

/-- Enumerations. A value is written as its name, and read from its name or from an object whose
only member has that name and the value `null`. -/
def names (all : List α) (name : α → String) : Codec α where
  encode x := .string (name x)
  decode
    | .string (some s) => ofName all name s
    | .object ((some s, d) :: ms) => do
      let x ← ofName all name s
      match d, ms with
      | .null, [] => return x
      | .null, _ :: _ => throw .malformed
      | d, _ => throw d.fault
    | _ => .error .malformed

end Codec

/-! ## Structures -/

/-- What a document says about one field of a structure. -/
inductive Slot where
  | given (d : Document)
  /-- The object has no such member. -/
  | missing
  /-- The array ends before the field. -/
  | beyond

/-- What a structure takes for a field that the document does not give. -/
inductive Presence (α : Type) where
  | required
  /-- A default, for objects and for arrays. -/
  | default (x : α)
  /-- A default for objects. An array must give the field. -/
  | named (x : α)

/-- The fields of a structure `ρ` from which a `β` is read. -/
structure Record (ρ β : Type) where
  /-- The names of the fields, with the fault of a document as the value of the field. -/
  fields : List (String × (Document → Option Fault))
  write : ρ → List (String × Json)
  /-- The value read from the slots of the fields, and the slots after them. -/
  read : List Slot → Except Fault (β × List Slot)

namespace Record

variable {ρ α β : Type}

/-- No fields. -/
def of (b : β) : Record ρ β where
  fields := []
  write _ := []
  read slots := .ok (b, slots)

/-- The value of one slot. -/
def readSlot (c : Codec α) (presence : Presence α) : Slot → Except Fault α
  | .given d => c.decode d
  | .missing => match presence with
    | .required => .error .mismatch
    | .default x => .ok x
    | .named x => .ok x
  | .beyond => match presence with
    | .default x => .ok x
    | _ => .error .mismatch

/-- The fault of a document as the value of a field. -/
def fault? (c : Codec α) (d : Document) : Option Fault :=
  match c.decode d with
  | .ok _ => none
  | .error f => some f

/-- One more field, which is left out of the object where `omits` holds of its value. -/
def field (r : Record ρ (α → β)) (name : String) (get : ρ → α) (c : Codec α)
    (presence : Presence α) (omits : α → Bool) : Record ρ β where
  fields := r.fields ++ [(name, fault? c)]
  write x := r.write x ++ if omits (get x) then [] else [(name, c.encode (get x))]
  read slots := do
    let (f, rest) ← r.read slots
    match rest with
    | [] => throw .mismatch
    | slot :: rest => return (f (← readSlot c presence slot), rest)

/-- A field that every document gives. -/
def required (r : Record ρ (α → β)) (name : String) (get : ρ → α) (c : Codec α) : Record ρ β :=
  r.field name get c .required fun _ => false

/-- A field with a default that is always written. -/
def defaulted (r : Record ρ (α → β)) (name : String) (get : ρ → α) (c : Codec α) (x : α) :
    Record ρ β :=
  r.field name get c (.default x) fun _ => false

/-- A field that is left out if it holds nothing. -/
def optional (r : Record ρ (Option α → β)) (name : String) (get : ρ → Option α) (c : Codec α) :
    Record ρ β :=
  r.field name get c.option (.default none) Option.isNone

/-- A field that is left out if it is empty. -/
def string (r : Record ρ (String → β)) (name : String) (get : ρ → String) : Record ρ β :=
  r.field name get .text (.default "") String.isEmpty

/-- A list that is left out if it is empty. -/
def listed (r : Record ρ (List α → β)) (name : String) (get : ρ → List α) (c : Codec α) :
    Record ρ β :=
  r.field name get c.list (.default []) List.isEmpty

/-- The first fault in the members of an object. Names that are not fields are passed over, and a
name that is a field may not be repeated if `once` holds. -/
def memberFault? (once : Bool) (fields : List (String × (Document → Option Fault))) :
    List String → List (Option String × Document) → Option Fault
  | _, [] => none
  | _, (none, _) :: _ => some .malformed
  | seen, (some k, d) :: ms =>
    match fields.lookup k with
    | none => if d.isWhole then memberFault? once fields seen ms else some .malformed
    | some fault? =>
      if once && seen.contains k then some .mismatch
      else (fault? d).orElse fun _ => memberFault? once fields (k :: seen) ms

/-- The slot of a name in the members of an object. The last member of the name counts. -/
def slot (ms : List (Option String × Document)) (name : String) : Slot :=
  match ms.reverse.lookup (some name) with
  | some d => .given d
  | none => .missing

/-- The structure of an object. -/
def decodeMembers (r : Record ρ β) (once : Bool) (ms : List (Option String × Document)) :
    Except Fault β :=
  match memberFault? once r.fields [] ms with
  | some f => .error f
  | none => (r.read (r.fields.map fun f => slot ms f.1)).map (·.1)

/-- The slots of an array, one for each of `n` fields. -/
def itemSlots : Nat → List Document → List Slot
  | 0, _ => []
  | n + 1, [] => .beyond :: itemSlots n []
  | n + 1, d :: ds => .given d :: itemSlots n ds

/-- The structure of an array, which may not have more items than there are fields. -/
def decodeItems (r : Record ρ β) (ds : List Document) : Except Fault β := do
  let (x, _) ← r.read (itemSlots r.fields.length ds)
  if (ds.drop r.fields.length).isEmpty then return x else throw .malformed

/-- The codec of a structure. -/
def codec (r : Record ρ ρ) : Codec ρ where
  encode x := Json.ofMembers (r.write x)
  decode
    | .object ms => r.decodeMembers true ms
    | .array ds => r.decodeItems ds
    | d => .error d.fault

/-- The codec of a structure that is read from objects only, in which names may be repeated. -/
def objectCodec (r : Record ρ ρ) : Codec ρ where
  encode x := Json.ofMembers (r.write x)
  decode
    | .object ms => r.decodeMembers false ms
    | d => .error d.fault

end Record

end SwitchFleet
