import SwitchFleet.Controller.ObjectStore
import SwitchFleet.Proofs.Controller.Attempt
import SwitchFleet.Proofs.Json.Lawful
import SwitchFleet.Proofs.Json.Reproduction

/-!
# Statuses that are written back

What the cluster keeps after a status was written back as a merge patch.

* `ObjectStore.answer_patchStatus`: a patch from the stored status to another one stores that one,
  unless the cluster rejects it.
* `Controller.refusal?`: the error with which a verb was answered. `Kind.Sends`: the verbs on the resources
  of a kind are questions that may be refused.
* `isFailedFlush`: a write of a status that fails. **`flush_ok`**: there is one where a status is not written.
* `Kind.Backed`: the resources of a kind are kept by an `ObjectStore`, which is a part of the world.
* `Kind.Flushed`: the ways in which a write of the status ends. **`flushed_of_runs`**: there are no
  others.
-/

namespace SwitchFleet

variable {Spec Status : Type}

namespace ObjectStore

variable {s : Schema Spec Status} {t : ObjectStore Spec Status} {name : String}
  {o : Object Spec Status} {before : Status}

/-- The store after a status was written. -/
def withStatus (t : ObjectStore Spec Status) (name : String) (o : Object Spec Status)
    (status : Status) (patch : Json) : ObjectStore Spec Status :=
  { t.insert name { o with status := some status } with
    statusPatches := t.statusPatches ++ [(name, patch)] }

theorem get?_withStatus (status : Status) (patch : Json) :
    (t.withStatus name o status patch).objects.get? name =
      some { o with status := some status } := by
  simp [withStatus, insert]

theorem answer_rejected (v : Verb Spec Status) (hr : t.rejected.contains v.kind = true) :
    t.answer s v = (.error (rejection v.kind), t) := by
  unfold answer
  rw [hr]
  rfl

theorem patchedStatus_diff (hl : s.status.Lawful) (hb : o.status = some before) (after : Status) :
    patchedStatus s o ((s.status.encode before).diff (s.status.encode after)) =
      .ok (some after) := by
  unfold patchedStatus
  rw [hb, Option.map_some, Option.getD_some, Json.patch_diff (hl.plain before) _ (hl.plain after)]
  exact hl.decode_option after

/-- **Writes of a status.** The patch from the stored status to another one stores that one. -/
theorem answer_patchStatus (hl : s.status.Lawful) (hget : t.objects.get? name = some o)
    (hb : o.status = some before) (after : Status)
    (hr : t.rejected.contains Verb.Kind.patchStatus = false) :
    t.answer s (.patchStatus name ((s.status.encode before).diff (s.status.encode after))) =
      (.ok (), t.withStatus name o after ((s.status.encode before).diff (s.status.encode after))) := by
  unfold answer
  change (if t.rejected.contains Verb.Kind.patchStatus = true then _ else _) = _
  rw [hr, if_neg Bool.false_ne_true]
  dsimp only [accept]
  rw [hget]
  dsimp only
  rw [patchedStatus_diff hl hb]
  rfl

end ObjectStore

namespace Controller

variable {σ : Type}

/-! ## Verbs as questions -/

/-- The verb of a question about resources. -/
def Query.verb? : Query → Option Verb.Kind
  | .switches v => some v.kind
  | .interfaces v => some v.kind
  | _ => none

/-- The error with which a verb on resources was answered. -/
def refusal? : Program.Asked Query.Answer → Option ControllerError
  | ⟨.switches _, .error e⟩ => some e
  | ⟨.interfaces _, .error e⟩ => some e
  | _ => none

/-- A write of the status of a resource that fails. -/
def isFailedFlush (a : Program.Asked Query.Answer) : Bool :=
  a.1.verb? = some .patchStatus && (refusal? a).isSome

namespace Kind

section

variable {k : Kind Spec Status} {own : Verb Spec Status → Query}
  {answer : (q : Query) → σ → q.Answer × σ} {name : String} {before after : Status} {s s' : σ}
  {asked : List (Program.Asked Query.Answer)}

theorem perform_ask (v : Verb Spec Status) : k.perform (Verb.ask v) = ExceptT.mk (k.send v) :=
  Program.bind_done _

variable (k own) in
/-- Verbs on the resources of a kind are single questions, and a verb fails if its question is refused. -/
structure Sends : Prop where
  verb_eq : ∀ v, (own v).verb? = some v.kind
  send_eq : ∀ v, ∃ f : (own v).Answer → v.Outcome,
    (k.send v = .ask (own v) fun r => .done (f r)) ∧ ∀ r, error? (f r) = refusal? ⟨own v, r⟩

/-- The question of a verb, with the answer that its outcome comes from. -/
theorem Sends.asked_inv (hsend : k.Sends own) {v : Verb Spec Status} {r : v.Outcome}
    (h : Program.Runs answer (ExceptT.mk (k.send v)) s r s' asked) :
    ∃ a, asked = [a] ∧ a.1 = own v ∧ refusal? a = error? r := by
  obtain ⟨f, hf, hrefusal⟩ := hsend.send_eq v
  obtain ⟨hrun, htrace⟩ := h
  change (k.send v).run answer s = _ at hrun
  change (k.send v).trace answer s = _ at htrace
  rw [hf] at hrun htrace
  obtain ⟨rfl, rfl⟩ := Prod.mk.inj hrun
  exact ⟨_, htrace.symm, rfl, (hrefusal _).symm⟩

theorem runs_flush {r : Except ControllerError Unit}
    (h : Program.Runs answer (k.flush name before after) s r s' asked) :
    (r = .ok () ∧ asked = []) ∨ ∃ patch,
      Program.Runs answer (ExceptT.mk (k.send (.patchStatus name patch))) s r s' asked := by
  unfold flush at h
  dsimp only at h
  by_cases he : (k.statusPatch before after).isEmptyPatch = true
  · rw [if_pos he] at h
    obtain ⟨hr, -, hasked⟩ := h.pure_inv
    exact .inl ⟨hr, hasked⟩
  · rw [if_neg he, perform_ask] at h
    exact .inr ⟨_, h⟩

theorem asked_flush (hsend : k.Sends own) {r : Except ControllerError Unit}
    (h : Program.Runs answer (k.flush name before after) s r s' asked) :
    ∀ a ∈ asked, ∃ patch, a.1 = own (.patchStatus name patch) := by
  rcases runs_flush h with ⟨-, rfl⟩ | ⟨patch, hpatch⟩
  · exact fun _ ha => absurd ha List.not_mem_nil
  · obtain ⟨a, rfl, ha, -⟩ := hsend.asked_inv hpatch
    exact List.forall_mem_singleton.mpr ⟨patch, ha⟩

/-- **Writes of a status** that do not fail succeed. -/
theorem flush_ok (hsend : k.Sends own) {r : Except ControllerError Unit}
    (h : Program.Runs answer (k.flush name before after) s r s' asked)
    (hw : asked.any isFailedFlush = false) : r = .ok () := by
  rcases runs_flush h with ⟨hr, -⟩ | ⟨patch, hpatch⟩
  · exact hr
  · obtain ⟨a, rfl, ha, hrefusal⟩ := hsend.asked_inv hpatch
    rcases r with e | ⟨⟩
    · have hfailed : isFailedFlush a = true := by
        unfold isFailedFlush
        rw [ha, hsend.verb_eq, hrefusal]
        rfl
      rw [List.any_cons, hfailed] at hw
      cases hw
    · rfl

end

/-! ## What is stored -/

/-- Statuses of a kind are read back from the objects that they are written as. -/
structure Written (k : Kind Spec Status) : Prop where
  lawful : k.schema.status.Lawful
  isObject : ∀ b, (k.schema.status.encode b).isObject = true

theorem Written.flush_self {k : Kind Spec Status} (hk : k.Written) (name : String) (b : Status) :
    k.flush name b b = pure () := by
  have hplain := hk.lawful.plain b
  have hempty : (k.statusPatch b b).isEmptyPatch = true :=
    (Json.isEmptyPatch_diff hplain.canonical _ hplain.canonical (hk.isObject b) (hk.isObject b)).mpr
      ((Json.same_iff hplain).mpr rfl)
  unfold flush
  exact if_pos hempty

/-- The resources of a kind are kept by a store, which is a part of the world. -/
structure Backed (k : Kind Spec Status) (answer : (q : Query) → σ → q.Answer × σ)
    (store : σ → ObjectStore Spec Status) (setStore : ObjectStore Spec Status → σ → σ) : Prop where
  run_send : ∀ v s, Program.run answer (k.send v) s =
    (((store s).answer k.schema v).1, setStore ((store s).answer k.schema v).2 s)
  store_setStore : ∀ t s, store (setStore t s) = t

variable {k : Kind Spec Status} {answer : (q : Query) → σ → q.Answer × σ}
  {store : σ → ObjectStore Spec Status} {setStore : ObjectStore Spec Status → σ → σ}
  {name : String} {o : Object Spec Status} {before after : Status} {s s' : σ}
  {r : Except ControllerError Unit} {asked : List (Program.Asked Query.Answer)}

variable (k answer store setStore name o before after s) in
/-- The ways in which a write of a status ends: its outcome, the world afterwards, and the questions
that were asked. -/
inductive Flushed :
    Except ControllerError Unit → σ → List (Program.Asked Query.Answer) → Prop
  | kept (he : before = after) : Flushed (.ok ()) s []
  | written (hr : (store s).rejected.contains Verb.Kind.patchStatus = false) :
    Flushed (.ok ())
      (setStore ((store s).withStatus name o after (k.statusPatch before after)) s)
      (Program.trace answer (k.send (.patchStatus name (k.statusPatch before after))) s)
  | rejected (hr : (store s).rejected.contains Verb.Kind.patchStatus = true) :
    Flushed (.error (ObjectStore.rejection .patchStatus)) (setStore (store s) s)
      (Program.trace answer (k.send (.patchStatus name (k.statusPatch before after))) s)

/-- **A write of a status ends in one of these ways.** -/
theorem flushed_of_runs (hk : k.Written) (hb : k.Backed answer store setStore)
    (hget : (store s).objects.get? name = some o) (ho : o.status = some before)
    (h : Program.Runs answer (k.flush name before after) s r s' asked) :
    k.Flushed answer store setStore name o before after s r s' asked := by
  obtain ⟨hrun, htrace⟩ := h
  unfold flush at hrun htrace
  dsimp only at hrun htrace
  by_cases he : (k.statusPatch before after).isEmptyPatch = true
  · rw [if_pos he] at hrun htrace
    obtain ⟨rfl, rfl⟩ := Prod.mk.inj hrun
    subst htrace
    refine .kept (hk.lawful.encode_injective ?_)
    exact Json.eq_of_isEmptyPatch (hk.lawful.plain _) (hk.lawful.plain _) (hk.isObject _) he
  · rw [if_neg he] at hrun htrace
    rw [perform_ask] at hrun htrace
    change Program.run answer (k.send _) s = _ at hrun
    rw [hb.run_send] at hrun
    subst htrace
    rcases hr : (store s).rejected.contains Verb.Kind.patchStatus with _ | _
    · rw [statusPatch, ObjectStore.answer_patchStatus hk.lawful hget ho after hr] at hrun
      obtain ⟨rfl, rfl⟩ := Prod.mk.inj hrun
      exact .written hr
    · rw [ObjectStore.answer_rejected (.patchStatus name _) hr] at hrun
      obtain ⟨rfl, rfl⟩ := Prod.mk.inj hrun
      exact .rejected hr

theorem Flushed.get?_store (hb : k.Backed answer store setStore)
    (hget : (store s).objects.get? name = some o) (ho : o.status = some before)
    (h : k.Flushed answer store setStore name o before after s r s' asked) :
    (store s').objects.get? name = some { o with status := some after } ∨
      r = .error (ObjectStore.rejection .patchStatus) ∧ (store s').objects.get? name = some o := by
  cases h with
  | kept he =>
    subst he
    exact .inl (by rw [hget, ← ho])
  | written hr =>
    rw [hb.store_setStore]
    exact .inl (ObjectStore.get?_withStatus _ _)
  | rejected hr =>
    rw [hb.store_setStore]
    exact .inr ⟨rfl, hget⟩

end Kind

end Controller

end SwitchFleet
