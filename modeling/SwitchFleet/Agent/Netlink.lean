import SwitchFleet.Agent.Link
import SwitchFleet.Text.Quoted

/-!
# Netlink messages

The kernel is asked about a link in one message, and answers in datagrams. A datagram is a sequence
of messages, each padded to a multiple of four bytes. The first message that is about a link, or
that reports an error, decides.

* `Netlink.request`: the question for the link of a name.
* `Netlink.Message.ofBytes?`: the message at the start of a datagram. `Netlink.Reader`: a way to read it.
* `Netlink.decide?`: the answer that a datagram gives, if it gives any.
* `Netlink.lookUp`: a question and the datagrams that follow it.
-/

namespace SwitchFleet.Netlink

/-! ## Integers -/

/-- A number as little-endian bytes. -/
def bytesOfNat : Nat → Nat → List UInt8
  | 0, _ => []
  | size + 1, n => UInt8.ofNat (n % 256) :: bytesOfNat size (n / 256)

/-- The number that little-endian bytes stand for. -/
def natOfBytes : List UInt8 → Nat
  | [] => 0
  | b :: bs => b.toNat + 256 * natOfBytes bs

/-- The number in the `size` bytes after the first `offset` ones. -/
def natAt (bs : List UInt8) (offset size : Nat) : Nat := natOfBytes ((bs.drop offset).take size)

/-- A size rounded up to a multiple of four. -/
def padded (n : Nat) : Nat := (n + 3) / 4 * 4

/-! ## Requests -/

/-- The size of the header of a message. -/
def headerSize : Nat := 16

/-- The size of the fixed part of a message about a link. -/
def linkSize : Nat := 16

/-- The size of the header of an attribute. -/
def attributeSize : Nat := 4

/-- The attribute with the name of a link, which ends in a zero byte. -/
def nameAttribute (name : String) : List UInt8 :=
  let value := name.toUTF8.toList ++ [0]
  let size := attributeSize + value.length
  bytesOfNat 2 size ++ bytesOfNat 2 3 ++ value ++ List.replicate (padded size - size) 0

/-- The question for the link of a name. -/
def request (name : String) : List UInt8 :=
  let property := nameAttribute name
  let size := headerSize + linkSize + property.length
  bytesOfNat 4 size ++ bytesOfNat 2 18 ++ bytesOfNat 2 1 ++ bytesOfNat 4 1 ++ bytesOfNat 4 0 ++
    List.replicate linkSize 0 ++ property

/-! ## Messages -/

/-- A property of a link. -/
structure Attribute where
  kind : Nat
  value : List UInt8
deriving DecidableEq

/-- A message of the kernel. -/
inductive Message where
  | link (attributes : List Attribute)
  /-- An error number of the kernel with its sign. Zero stands for success. -/
  | error (code : Int)
  /-- A message that says nothing about a link. -/
  | other
deriving DecidableEq

/-- The number of an attribute without the bits that only describe its value. -/
def attributeKind (n : Nat) : Nat := n % 0x4000

/-- Whether a value is a text, with or without a zero byte at its end. -/
def isText (value : List UInt8) : Bool :=
  let text := if value.getLast? == some 0 then value.dropLast else value
  ByteArray.validateUTF8 ⟨text.toArray⟩

/-- The attributes of a link. Each is padded to a multiple of four bytes. -/
def attributes? (bs : List UInt8) : Option (List Attribute) :=
  if bs = [] then some []
  else
    let size := natAt bs 0 2
    if bs.length < attributeSize ∨ size < attributeSize ∨ bs.length < size then none
    else
      let a : Attribute := ⟨attributeKind (natAt bs 2 2), (bs.take size).drop attributeSize⟩
      if a.kind = 3 ∧ !isText a.value then none
      else (attributes? (bs.drop (padded size))).map (a :: ·)
termination_by bs.length
decreasing_by
  rename_i h _
  simp only [List.length_drop, padded, attributeSize] at *
  omega

/-- A signed number of 32 bits. -/
def signed32 (n : Nat) : Int := if 2 * n < UInt32.size then n else (n : Int) - UInt32.size

/-- The message with a kind and a body. -/
def messageOf? (kind : Nat) (body : List UInt8) : Option Message :=
  match kind with
  | 2 => if body.length < 4 then none else some (.error (signed32 (natAt body 0 4)))
  | 3 => if body.length < 4 then none else some .other
  | 16 => if body.length < linkSize then none else (attributes? (body.drop linkSize)).map .link
  | 17 =>
    if body.length < linkSize then none else (attributes? (body.drop linkSize)).map fun _ => .other
  | _ => some .other

/-- The message at the start of a datagram, with its size. -/
def Message.ofBytes? (bs : List UInt8) : Option (Message × Nat) :=
  let size := natAt bs 0 4
  if bs.length < headerSize ∨ size < headerSize ∨ bs.length < size then none
  else (messageOf? (natAt bs 4 2) ((bs.take size).drop headerSize)).map fun m => (m, size)

/-- A way to read the message at the start of a datagram, with its size. -/
abbrev Reader : Type := List UInt8 → Option (Message × Nat)

/-! ## Decisions -/

/-- A byte as two hexadecimal digits. -/
def hexByte (b : UInt8) : String :=
  let ds := Text.hex b.toNat
  String.ofList (List.replicate (2 - ds.length) '0' ++ ds)

/-- A hardware address as a text. -/
def addressText (value : List UInt8) : String := ":".intercalate (value.map hexByte)

/-- The hardware address of a link: its first attribute of that kind that is not empty. -/
def address? (attributes : List Attribute) : Option String :=
  (attributes.find? fun a => a.kind == 1 && !a.value.isEmpty).map fun a => addressText a.value

/-- What a message decides about the link that was asked for. -/
def Message.decide? : Message → Option LinkReply
  | link attributes => some (.ok (address? attributes))
  | error code => if code = 0 then none else some (.error (.system (-code).toNat))
  | other => none

/-- What the rest of a datagram decides: the first message that decides anything counts, or that cannot
be read. A message that claims to be empty ends the datagram. -/
def decideFrom? (read : Reader) (bs : List UInt8) (offset : Nat) : Option LinkReply :=
  if offset < bs.length then
    match read (bs.drop offset) with
    | none => some (.error .malformed)
    | some (m, size) =>
      if size = 0 then none
      else
        match m.decide? with
        | some reply => some reply
        | none => decideFrom? read bs (offset + padded size)
  else none
termination_by bs.length - offset
decreasing_by
  simp only [padded]
  omega

/-- What a datagram decides. -/
def decide? (read : Reader) (bs : List UInt8) : Option LinkReply := decideFrom? read bs 0

/-! ## Look-ups -/

/-- The size of the longest datagram that is received whole. -/
def bufferSize : Nat := 16384

/-- What the datagrams of the kernel decide, and the datagrams after the decision. An empty datagram,
like the end of all datagrams, is no answer. -/
def receive (read : Reader) (name : String) :
    List (List UInt8) → LinkReply × List (List UInt8)
  | [] => (.error (.noAnswer name), [])
  | bs :: rest =>
    if bs.isEmpty then (.error (.noAnswer name), rest)
    else
      match decide? read (bs.take bufferSize) with
      | some reply => (reply, rest)
      | none => receive read name rest

/-- A call on a socket. -/
inductive Call where
  | create
  | bind
  | connect
  | send
  | receive
deriving DecidableEq

/-- A socket to the kernel. -/
structure Socket where
  incoming : List (List UInt8)
  sent : List (List UInt8)
  fault : Option (Call × Nat)

/-- Whether a call on a socket fails. -/
def Socket.faultOf? (s : Socket) (call : Call) : Option Nat :=
  (s.fault.filter fun f => f.1 = call).map (·.2)

/-- One question for the link of a name, and the socket after it. -/
def lookUpWith (read : Reader) (name : String) (s : Socket) : LinkReply × Socket :=
  match [Call.create, .bind, .connect, .send].findSome? s.faultOf? with
  | some number => (.error (.system number), s)
  | none =>
    let s := { s with sent := s.sent ++ [request name] }
    match s.faultOf? .receive with
    | some number => (.error (.system number), s)
    | none =>
      let (reply, rest) := receive read name s.incoming
      (reply, { s with incoming := rest })

/-- One question for the link of a name, where messages are read as the kernel writes them. -/
def lookUp (name : String) (s : Socket) : LinkReply × Socket := lookUpWith Message.ofBytes? name s

end SwitchFleet.Netlink
