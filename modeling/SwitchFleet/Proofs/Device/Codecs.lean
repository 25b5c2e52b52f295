import SwitchFleet.Device.Operation
import SwitchFleet.Proofs.Json.Lawful

/-!
# The codecs of the agent protocol

Everything that travels between an agent and its clients is written as a plain value and read back as
it was.

* `Device.lawful_codec`, `Interface.lawful_codec`, …: the reports.
* `InterfaceRequest.lawful_codec`, `AdminStatusRequest.lawful_codec`: the arguments of operations.
* `Operation.Kind.lawful_codec`, **`Reply.lawful_codec`**: the replies to all operations.
-/

namespace SwitchFleet

open Codec.Lawful Record

theorem LineStatus.lawful_codec : LineStatus.codec.Lawful := .names fun x => by cases x <;> rfl

theorem Status.lawful_codec : Status.codec.Lawful :=
  Record.lawful_codec fun _ =>
    ((Reads.of Status.mk).required (by decide) .word32).defaulted (by decide) .text

/-! ## Reports -/

theorem Device.lawful_codec : Device.codec.Lawful :=
  Record.lawful_codec fun _ =>
    (((((Reads.of Device.mk).required (by decide) .text).required (by decide) .text).required
      (by decide) .text).required (by decide) .text).required (by decide) .word32

theorem Interface.lawful_codec : Interface.codec.Lawful :=
  Record.lawful_codec fun _ =>
    ((((Reads.of Interface.mk).required (by decide) .text).defaulted (by decide) .text).defaulted
      (by decide) LineStatus.lawful_codec).defaulted (by decide) LineStatus.lawful_codec

theorem Peer.lawful_codec : Peer.codec.Lawful :=
  Record.lawful_codec fun _ =>
    ((((Reads.of Peer.mk).required (by decide) .text).required (by decide) .text).required
      (by decide) .text).required (by decide) .text

theorem Port.lawful_codec : Port.codec.Lawful :=
  Record.lawful_codec fun _ =>
    ((Reads.of Port.mk).required (by decide) .text).required (by decide) .text

theorem lawful_itemsCodec {α : Type} {c : Codec α} (h : c.Lawful) : (itemsCodec c).Lawful :=
  Record.lawful_codec fun _ => (Reads.of id).required List.not_mem_nil h.list

theorem Operation.Kind.lawful_codec (k : Operation.Kind) : k.codec.Lawful := by
  cases k with
  | deviceInfo => exact Device.lawful_codec
  | interfaces => exact lawful_itemsCodec Interface.lawful_codec
  | setAdminStatus => exact Interface.lawful_codec
  | interface => exact Interface.lawful_codec
  | peer => exact Peer.lawful_codec
  | ports => exact lawful_itemsCodec Port.lawful_codec

/-- **Replies.** A reply is read back as it was sent. -/
theorem Reply.lawful_codec {α : Type} {c : Codec α} (h : c.Lawful) : (Reply.codec c).Lawful :=
  Record.lawful_codec fun _ =>
    ((Reads.of Reply.mk).required List.not_mem_nil Status.lawful_codec).optional
      (show "data" ∉ ["status"] by decide) h

/-! ## Arguments -/

theorem InterfaceRequest.lawful_codec : InterfaceRequest.codec.Lawful :=
  Record.lawful_codec fun _ => (Reads.of InterfaceRequest.mk).required (by decide) .text

theorem AdminStatusRequest.lawful_codec : AdminStatusRequest.codec.Lawful :=
  Record.lawful_codec fun _ =>
    ((Reads.of AdminStatusRequest.mk).required (by decide) .text).required (by decide)
      LineStatus.lawful_codec

end SwitchFleet
