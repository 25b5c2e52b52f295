import SwitchFleet.Resource.SwitchInterface
import SwitchFleet.Proofs.Json.Lawful

/-!
# The codecs of specifications and statuses

The parts of resources are written as plain values and read back as they were.

* `Condition.lawful_codec`, `Neighbor.lawful_codec`, …: the parts of a status.
* **`SwitchStatus.lawful_codec`**, **`SwitchInterfaceStatus.lawful_codec`**: whole statuses.
* **`SwitchSpec.lawful_codec`**, **`SwitchInterfaceSpec.lawful_codec`**: specifications.
* `OwnerReference.lawful_codec`: owners.
-/

namespace SwitchFleet

open Codec.Lawful Record

theorem Truth.lawful_codec : Truth.codec.Lawful := .names fun x => by cases x <;> rfl

theorem Lifecycle.lawful_codec : Lifecycle.codec.Lawful := .names fun x => by cases x <;> rfl

theorem LinkState.lawful_codec : LinkState.codec.Lawful := .names fun x => by cases x <;> rfl

theorem Condition.lawful_codec : Condition.codec.Lawful :=
  Record.lawful_codec fun _ =>
    ((((((Reads.of Condition.mk).required (by decide) .text).required (by decide)
      Truth.lawful_codec).defaulted (by decide) .text).defaulted (by decide) .text).defaulted
        (by decide) .text).optional (by decide) .int64

theorem LocalReference.lawful_codec : LocalReference.codec.Lawful :=
  Record.lawful_codec fun _ => (Reads.of LocalReference.mk).defaulted (by decide) .text

theorem PortStatus.lawful_codec : PortStatus.codec.Lawful :=
  Record.lawful_codec fun _ =>
    ((Reads.of PortStatus.mk).required (by decide) .text).listed (by decide)
      LocalReference.lawful_codec

/-- **Statuses of switches.** -/
theorem SwitchStatus.lawful_codec : SwitchStatus.codec.Lawful :=
  Record.lawful_codec fun _ =>
    ((((((Reads.of SwitchStatus.mk).optional (by decide) Lifecycle.lawful_codec).listed (by decide)
      PortStatus.lawful_codec).string (by decide)).string (by decide)).string (by decide)).listed
        (by decide) Condition.lawful_codec

theorem Neighbor.lawful_codec : Neighbor.codec.Lawful :=
  Record.lawful_codec fun _ =>
    (((Reads.of Neighbor.mk).string (by decide)).string (by decide)).string (by decide)

theorem Neighbor.eq_empty {n : Neighbor} (h : n.isEmpty = true) : n = .empty := by
  obtain ⟨mac, system, handle⟩ := n
  simp only [Neighbor.isEmpty, Bool.and_eq_true, String.isEmpty_iff] at h
  obtain ⟨⟨rfl, rfl⟩, rfl⟩ := h
  rfl

theorem Neighbor.reads_field {ρ β : Type} {r : Record ρ (Neighbor → β)} {f : Neighbor → β}
    {name : String} {get : ρ → Neighbor} {x : ρ} (h : r.Reads x f) (hn : name ∉ r.names) :
    (r.field name get Neighbor.codec (.default .empty) Neighbor.isEmpty).Reads x (f (get x)) := by
  rcases ho : (get x).isEmpty
  · exact h.written hn ho (lawful_codec.plain _) (lawful_codec.decode_encode _)
  · exact h.omitted hn ho (.inl (by rw [eq_empty ho]))

/-- **Statuses of interfaces.** -/
theorem SwitchInterfaceStatus.lawful_codec : SwitchInterfaceStatus.codec.Lawful :=
  Record.lawful_codec fun _ =>
    ((Neighbor.reads_field ((((Reads.of SwitchInterfaceStatus.mk).optional (by decide)
      LinkState.lawful_codec).optional (by decide) LinkState.lawful_codec).optional (by decide)
        Lifecycle.lawful_codec) (by decide)).string (by decide)).listed (by decide)
          Condition.lawful_codec

/-! ## Specifications -/

theorem ObjectReference.lawful_codec : ObjectReference.codec.Lawful :=
  Record.lawful_codec fun _ =>
    ((((Reads.of ObjectReference.mk).string (by decide)).string (by decide)).string
      (by decide)).string (by decide)

theorem Management.lawful_codec : Management.codec.Lawful :=
  Record.lawful_codec fun _ =>
    (((Reads.of Management.mk).defaulted (by decide) .text).defaulted (by decide) .text).defaulted
      (by decide) ObjectReference.lawful_codec

theorem PortSpec.lawful_codec : PortSpec.codec.Lawful :=
  Record.lawful_codec fun _ => (Reads.of PortSpec.mk).required (by decide) .text

/-- **Specifications of switches.** -/
theorem SwitchSpec.lawful_codec : SwitchSpec.codec.Lawful :=
  Record.lawful_codec fun _ =>
    (((Reads.of SwitchSpec.mk).defaulted (by decide) Management.lawful_codec).defaulted (by decide)
      .text).listed (by decide) PortSpec.lawful_codec

/-- **Specifications of interfaces.** -/
theorem SwitchInterfaceSpec.lawful_codec : SwitchInterfaceSpec.codec.Lawful :=
  Record.lawful_codec fun _ =>
    (((Reads.of SwitchInterfaceSpec.mk).required (by decide) .text).optional (by decide)
      LocalReference.lawful_codec).defaulted (by decide) LinkState.lawful_codec

/-! ## Owners -/

theorem lawful_textOrNull : textOrNull.Lawful := ⟨fun _ => trivial, fun _ => rfl⟩

theorem OwnerReference.lawful_codec : OwnerReference.codec.Lawful :=
  Record.lawful_objectCodec fun _ =>
    ((((((Reads.of OwnerReference.mk).defaulted (by decide) lawful_textOrNull).optional (by decide)
      .bool).optional (by decide) .bool).defaulted (by decide) lawful_textOrNull).defaulted
        (by decide) lawful_textOrNull).defaulted (by decide) lawful_textOrNull

end SwitchFleet
