import SwitchFleet.Proofs.Instant.Text
import SwitchFleet.Proofs.Json.Merge
import SwitchFleet.Proofs.Resource.Codecs

/-!
# Resources as JSON

What the JSON value of a resource has as its members, and which resource a changed value is read as.

* `Metadata.Valid`: the metadata that can be written. `Metadata.restores_codec`: it is read back.
* **`Metadata.patch_finalizers`**: metadata after a merge patch of its finalizers.
* `Schema.members`: the members of the JSON value of a resource.
* **`Schema.decode_members`**: a resource is read from its members, whatever its status.
-/

namespace SwitchFleet

open Codec.Lawful Record

/-! ## Metadata -/

theorem Instant.restores_codec {t : Instant} (h : t.Representable) : Instant.codec.Restores t where
  plain := trivial
  decode_encode := by
    simp only [Instant.codec, Json.document, Instant.parse?_text h]

/-- The metadata that can be written: its maps are in order, and the time of deletion is in the range of
times that are read. -/
structure Metadata.Valid (m : Metadata) : Prop where
  labels : ∀ labels ∈ m.labels, Keyed.Sorted labels
  annotations : ∀ annotations ∈ m.annotations, Keyed.Sorted annotations
  deletionTimestamp : ∀ t ∈ m.deletionTimestamp, t.Representable

theorem restores_texts {m : Keyed String} (h : Keyed.Sorted m) : Codec.text.keyed.Restores m :=
  .keyed h fun _ _ => text.restores _

/-- **Metadata** is read back. -/
theorem Metadata.restores_codec {m : Metadata} (h : m.Valid) : Metadata.codec.Restores m :=
  Record.restores_objectCodec <|
    (((((((((Reads.of Metadata.mk).optional (by decide) .text).optional (by decide) .text).optional
      (by decide) .int64).optional (by decide) text.list).restored (by decide)
        fun _ hl => restores_texts (h.labels _ hl)).restored (by decide)
          fun _ hl => restores_texts (h.annotations _ hl)).optional (by decide) .text).restored
            (by decide) fun _ ht => Instant.restores_codec (h.deletionTimestamp _ ht)).optional
              (by decide) OwnerReference.lawful_codec.list

theorem Record.get?_write_optional {ρ α β : Type} (r : Record ρ (Option α → β)) (name : String)
    (get : ρ → Option α) (c : Codec α) (x : ρ) (k : String) :
    (Keyed.ofList ((r.optional name get c).write x)).get? k =
      (if k = name then (get x).map c.encode else none).or ((Keyed.ofList (r.write x)).get? k) := by
  rcases hx : get x with _ | a
  · simp [Record.optional, Record.field, hx]
  · by_cases hk : k = name <;>
      simp [Record.optional, Record.field, hx, hk, Keyed.ofList, List.foldl_append, Codec.option]

namespace Metadata

/-- Metadata with other finalizers. -/
def withFinalizers (m : Metadata) (finalizers : Option (List String)) : Metadata :=
  { m with finalizers }

/-- The members of metadata as JSON. -/
def members (m : Metadata) : Keyed Json := (codec.encode m).members?.getD []

theorem encode_eq (m : Metadata) : codec.encode m = .object m.members := rfl

theorem get?_finalizers (m : Metadata) :
    m.members.get? "finalizers" = m.finalizers.map Json.strings := by
  change Keyed.get? "finalizers" (Keyed.ofList (Record.write _ m)) = _
  simp only [Record.get?_write_optional]
  have hnone : Keyed.get? "finalizers" (Keyed.ofList ((Record.of Metadata.mk).write m)) = none := rfl
  rw [hnone]
  simp
  rfl

theorem get?_withFinalizers (m : Metadata) (finalizers : Option (List String)) {name : String}
    (hn : name ≠ "finalizers") :
    (m.withFinalizers finalizers).members.get? name = m.members.get? name := by
  change Keyed.get? name (Keyed.ofList (Record.write _ (m.withFinalizers finalizers))) =
    Keyed.get? name (Keyed.ofList (Record.write _ m))
  simp only [Record.get?_write_optional, if_neg hn]
  rfl

theorem sorted_members (m : Metadata) : Keyed.Sorted m.members := Keyed.sorted_ofList _

/-- **Finalizers.** The merge patch with other finalizers gives the metadata with these. -/
theorem patch_finalizers (m : Metadata) (finalizers : List String) :
    (codec.encode m).patch (.ofMembers [("finalizers", .strings finalizers)]) =
      codec.encode (m.withFinalizers (some finalizers)) := by
  rw [encode_eq, encode_eq, Json.patch_member]
  refine congrArg Json.object ((Json.sorted_patchMembers m.sorted_members _).ext
    (sorted_members _) fun name => ?_)
  rw [Json.get?_patchMember]
  by_cases hn : name = "finalizers"
  · rw [if_pos hn, hn, get?_finalizers, get?_finalizers]
    rfl
  · rw [if_neg hn, get?_withFinalizers m _ hn]

end Metadata

/-! ## Members of resources -/

namespace Schema

variable {Spec Status : Type} (s : Schema Spec Status) (o : Object Spec Status)

/-- The members of the JSON value of a resource. -/
def members : List (String × Json) :=
  [("apiVersion", .string Group.apiVersion), ("kind", .string s.kind),
    ("metadata", Metadata.codec.encode o.metadata), ("spec", s.spec.encode o.spec)] ++
      (o.status.map fun b => ("status", s.status.encode b)).toList

theorem encode_eq : s.codec.encode o = .object (Keyed.ofList (s.members o)) := by
  rcases ho : o.status with _ | b <;>
    simp [codec, record, members, Record.required, Record.field, Record.of, Json.ofMembers, ho,
      Codec.option]

theorem get?_members (name : String) :
    (Keyed.ofList (s.members o)).get? name = (s.members o).lookup name := by
  refine Keyed.get?_ofList ?_ name
  unfold members
  cases o.status <;> simp

theorem lookup_status : (s.members o).lookup "status" = o.status.map s.status.encode := by
  unfold members
  cases o.status <;> simp [List.lookup_cons]

theorem lookup_metadata :
    (s.members o).lookup "metadata" = some (Metadata.codec.encode o.metadata) := by
  simp [members, List.lookup_cons]

/-- The parts of a resource other than its status. -/
def parts : Record (Object Spec Status) (Option Status → Object Spec Status) :=
  Record.of Object.mk
    |>.required "metadata" Object.metadata Metadata.codec
    |>.required "spec" Object.spec s.spec

theorem reads_parts (hspec : s.spec.Lawful) (hmeta : Metadata.codec.Restores o.metadata) :
    s.parts.Reads o (Object.mk o.metadata o.spec) :=
  ((Reads.of Object.mk).written List.not_mem_nil rfl hmeta.plain hmeta.decode_encode).required
    (by simp [Record.names, Record.field, Record.of]) hspec

/-- **Reading.** A resource is read from its metadata and its specification, and a status. -/
theorem decode_members {ms : Keyed Json} (hs : Keyed.Sorted ms) (hspec : s.spec.Lawful)
    (hmeta : Metadata.codec.Restores o.metadata)
    (hm : ms.get? "metadata" = some (Metadata.codec.encode o.metadata))
    (hp : ms.get? "spec" = some (s.spec.encode o.spec)) :
    s.codec.decodeJson (.object ms) =
      (readSlot s.status.option (.named none) (slotOf ms "status")).map fun status =>
        { o with status } := by
  have hnames : s.parts.names = ["metadata", "spec"] := rfl
  have hwrite : s.parts.write o =
      [("metadata", Metadata.codec.encode o.metadata), ("spec", s.spec.encode o.spec)] := rfl
  refine (s.reads_parts o hspec hmeta).decodeMembers_field hs ?_ (by simp [hnames]) true
  rw [hnames, hwrite]
  simp [hm, hp, List.lookup_cons]

/-- **Resources** are read back. -/
theorem decodeJson_encode (hspec : s.spec.Lawful) (hstatus : s.status.Lawful)
    (hmeta : o.metadata.Valid) : s.codec.decodeJson (s.codec.encode o) = .ok o := by
  rw [encode_eq, s.decode_members o (Keyed.sorted_ofList _) hspec (Metadata.restores_codec hmeta)
    ((get?_members ..).trans (lookup_metadata ..)) (get?_members ..), slotOf, get?_members,
    lookup_status]
  obtain ⟨m, spec, status⟩ := o
  cases status with
  | none => rfl
  | some b => exact congrArg (Except.map (Object.mk m spec)) (hstatus.decode_option b)

end Schema

end SwitchFleet
