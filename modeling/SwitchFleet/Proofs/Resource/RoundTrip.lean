import SwitchFleet.Proofs.Resource.Codecs

/-!
# Specifications and statuses through JSON

A specification or a status is written as a JSON value without `null` at any depth, so that a merge patch
between two of them writes what is there, and removes a member only where one went away. Nothing is lost on
the way: what is left out is what a reader takes for a missing member.

* `Json.Within`: a value within another one, at any depth of arrays and objects.
* `Codec.RoundTrips`: a codec whose values pass through JSON unchanged. **`Codec.Lawful.roundTrips`**: every
  lawful codec does this.
* **`resources_roundTrip`**: so do the codecs of the specifications and statuses of both kinds.
-/

namespace SwitchFleet

/-! ## Values within values -/

/-- A value is a part of another one, at any depth of arrays and objects. -/
inductive Json.Within (w : Json) : Json → Prop where
  | self : Within w w
  | item {xs : List Json} {x : Json} (hx : x ∈ xs) (h : Within w x) : Within w (.array xs)
  | member {ms : List (String × Json)} {m : String × Json} (hm : m ∈ ms) (h : Within w m.2) :
    Within w (.object ms)

theorem Json.Within.plain {v w : Json} (h : w.Within v) (hv : v.Plain) : w.Plain := by
  induction h with
  | self => exact hv
  | item hx _ ih => exact ih (plainItems_iff.mp hv _ hx)
  | member hm _ ih => exact ih (plainMembers_iff.mp hv.2 _ hm)

/-! ## Codecs -/

/-- A codec whose values pass through JSON unchanged, as values and as texts. -/
structure Codec.RoundTrips {α : Type} (c : Codec α) : Prop where
  decodeJson_encode : ∀ x, c.decodeJson (c.encode x) = .ok x
  decodeText_encodeText : ∀ x, c.decodeText (c.encodeText x) = .ok x
  /-- No part of a value that is written is `null`. -/
  no_null : ∀ x, ¬ Json.null.Within (c.encode x)
  injective : ∀ x y, c.encode x = c.encode y → x = y
  /-- Other spellings of a value are read, and written in the one way that is read back. -/
  again : ∀ d x, c.decode d = .ok x → c.decodeJson (c.encode x) = c.decode d

theorem Codec.Lawful.roundTrips {α : Type} {c : Codec α} (h : c.Lawful) : c.RoundTrips where
  decodeJson_encode := h.decode_encode
  decodeText_encodeText := h.decodeText
  no_null x hnull := hnull.plain (h.plain x)
  injective _ _ := h.encode_injective
  again _ x hd := (h.decode_encode x).trans hd.symm

/-! ## Resources -/

/-- **Specifications and statuses** of switches and of interfaces pass through JSON unchanged. -/
theorem resources_roundTrip :
    (Switch.schema.spec.RoundTrips ∧ Switch.schema.status.RoundTrips) ∧
      SwitchInterface.schema.spec.RoundTrips ∧ SwitchInterface.schema.status.RoundTrips :=
  ⟨⟨SwitchSpec.lawful_codec.roundTrips, SwitchStatus.lawful_codec.roundTrips⟩,
    SwitchInterfaceSpec.lawful_codec.roundTrips, SwitchInterfaceStatus.lawful_codec.roundTrips⟩

end SwitchFleet
