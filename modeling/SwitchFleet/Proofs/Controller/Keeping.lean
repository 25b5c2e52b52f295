import SwitchFleet.Proofs.Controller.Finalizers

/-!
# Attempts at stored resources

The resources of one kind are kept in a store that is a part of the world. The world may fail any verb
on them, and it answers everything else as it likes.

* `ObjectStore.effect`: what a verb makes of one resource. **`get?_accept`**: it does this to each.
* `Kind.Keeps`: the world keeps the resources of a kind in this way.
* `Kind.afterPatch`: what is found after a patch of the finalizers, by the reply to it.
* `Kind.flush_inv`, `Kind.ensure_inv`: what is stored after a status was written, and after a finalizer
  was added or removed.
* `Kind.reconcile_inv`: an attempt sees to the finalizer, or else it is a comparison.
  `Kind.Managed.asked_inv`: what is asked in either case.
* `Kind.Course`: the ways in which an attempt at a stored resource goes, each with what is stored
  afterwards and with the questions that were asked. **`course_of_runs`**: there are no others.
-/

namespace SwitchFleet

variable {Spec Status : Type}

theorem ObjectStore.accept_patchStatus {s : Schema Spec Status} {t : ObjectStore Spec Status}
    {name : String} {o : Object Spec Status} {empty : Status} (hl : s.status.Lawful)
    (hempty : s.status.encode empty = .object []) (hget : t.objects.get? name = some o)
    (after : Status) :
    t.accept s (.patchStatus name
        ((s.status.encode (o.status.getD empty)).diff (s.status.encode after))) =
      (.ok (), t.withStatus name o after
        ((s.status.encode (o.status.getD empty)).diff (s.status.encode after))) := by
  have hpatched : patchedStatus s o
      ((s.status.encode (o.status.getD empty)).diff (s.status.encode after)) =
        .ok (some after) := by
    rcases hb : o.status with _ | before
    · have hplain : (Json.object []).Plain := hempty ▸ hl.plain empty
      unfold patchedStatus
      rw [hb, Option.map_none, Option.getD_none, Option.getD_none, hempty,
        Json.patch_diff hplain _ (hl.plain after)]
      exact hl.decode_option after
    · exact patchedStatus_diff hl hb after
  dsimp only [accept]
  rw [hget]
  dsimp only
  rw [hpatched]
  rfl

/-- A verb that patches the resource with a name. -/
def Verb.Patches (name : String) : Verb Spec Status → Prop
  | .patchFinalizers key _ => key = name
  | .patchStatus key _ => key = name
  | _ => False

theorem Verb.Patches.kind_ne {name : String} {v : Verb Spec Status} (h : v.Patches name) :
    v.kind ≠ .apply := by
  cases v with
  | get key => exact h.elim
  | apply o => exact h.elim
  | patchFinalizers key fs => exact nofun
  | patchStatus key patch => exact nofun

/-! ## What becomes of one resource -/

namespace ObjectStore

variable {s : Schema Spec Status} {t : ObjectStore Spec Status} {name key : String}
  {o : Object Spec Status}

theorem get?_insert : (t.insert name o).objects.get? key =
    if key = name then some o else t.objects.get? key := Keyed.get?_put ..

/-- A resource that is applied where there may be one already. -/
def superseding (old : Option (Object Spec Status)) (new : Object Spec Status) : Object Spec Status :=
  match old with
  | some old => replacing old new
  | none => new

/-- A resource after a patch of its status, which is dropped if there is no such status. -/
def repatched (s : Schema Spec Status) (patch : Json) (o : Object Spec Status) : Object Spec Status :=
  match patchedStatus s o patch with
  | .ok status => { o with status }
  | .error _ => o

theorem repatched_eq (s : Schema Spec Status) (patch : Json) (o : Object Spec Status) :
    ∃ status, repatched s patch o = { o with status } := by
  unfold repatched
  rcases patchedStatus s o patch with e | status
  · exact ⟨o.status, rfl⟩
  · exact ⟨status, rfl⟩

/-- What a verb makes of the resource under a name, which may be there or not. -/
def effect (s : Schema Spec Status) (name : String) :
    Verb Spec Status → Option (Object Spec Status) → Option (Object Spec Status)
  | .get _, found => found
  | .patchFinalizers key fs, found =>
    if name = key then found.bind (·.withFinalizers fs) else found
  | .patchStatus key patch, found => if name = key then found.map (repatched s patch) else found
  | .apply o, found => if o.metadata.name = some name then some (superseding found o) else found

/-- **Verbs** change each resource for itself. -/
theorem get?_accept (v : Verb Spec Status) (name : String) :
    (t.accept s v).2.objects.get? name = effect s name v (t.objects.get? name) := by
  cases v with
  | get key => rfl
  | patchFinalizers key fs =>
    dsimp only [accept, effect]
    by_cases hn : name = key
    · subst hn
      rw [if_pos rfl]
      rcases hget : t.objects.get? name with _ | o
      · exact hget
      · exact get?_setFinalizers
    · rw [if_neg hn]
      rcases t.objects.get? key with _ | o
      · rfl
      · dsimp only [setFinalizers]
        split
        · exact (Keyed.get?_erase ..).trans (if_neg hn)
        · exact get?_insert.trans (if_neg hn)
  | patchStatus key patch =>
    dsimp only [accept, effect]
    by_cases hn : name = key
    · subst hn
      rw [if_pos rfl]
      rcases hget : t.objects.get? name with _ | o
      · exact hget
      · dsimp only [Option.map_some, repatched]
        rcases patchedStatus s o patch with e | status
        · exact hget
        · exact get?_insert.trans (if_pos rfl)
    · rw [if_neg hn]
      rcases t.objects.get? key with _ | o
      · rfl
      · dsimp only
        rcases patchedStatus s o patch with e | status
        · rfl
        · exact get?_insert.trans (if_neg hn)
  | apply o =>
    dsimp only [accept, effect, Object.name]
    rcases o.metadata.name with _ | key
    · rfl
    · have hinsert : (t.applyObject key o).objects.get? name =
          if name = key then some (superseding (t.objects.get? key) o) else t.objects.get? name :=
        get?_insert
      dsimp only
      rw [hinsert]
      by_cases hn : name = key
      · subst hn
        rw [if_pos rfl, if_pos rfl]
      · rw [if_neg hn, if_neg fun h => hn (Option.some.inj h).symm]

end ObjectStore

namespace Controller

variable {σ : Type}

/-- A question that deals with an agent, or that applies the resource for an interface. -/
def Query.Engages : Query → Prop
  | .client _ | .call .. | .interfaces (.apply _) => True
  | _ => False

namespace Kind

/-- The resources of a kind are kept in a store, which is a part of the world. A verb on them may fail,
and then nothing is changed. -/
structure Keeps (k : Kind Spec Status) (own : Verb Spec Status → Query)
    (answer : (q : Query) → σ → q.Answer × σ) (store : σ → ObjectStore Spec Status) : Prop where
  send : ∀ v s,
    ((k.send v).run answer s).1 = ((store s).accept k.schema v).1 ∧
        store ((k.send v).run answer s).2 = ((store s).accept k.schema v).2 ∨
      (∃ e, ((k.send v).run answer s).1 = .error e) ∧ store ((k.send v).run answer s).2 = store s
  other : ∀ q s, (∀ v, q ≠ own v) → store (answer q s).2 = store s

variable {k : Kind Spec Status} {own : Verb Spec Status → Query}
  {answer : (q : Query) → σ → q.Answer × σ} {store : σ → ObjectStore Spec Status}
  {o : Object Spec Status} {name : String} {s s' : σ} {asked : List (Program.Asked Query.Answer)}

/-- A store whose verbs may be rejected is a part of a world of this kind. -/
theorem Backed.keeps {setStore : ObjectStore Spec Status → σ → σ}
    (hb : k.Backed answer store setStore)
    (hother : ∀ q s, (∀ v, q ≠ own v) → store (answer q s).2 = store s) :
    k.Keeps own answer store := by
  refine ⟨fun v s => ?_, hother⟩
  rw [hb.run_send, hb.store_setStore]
  rcases hr : (store s).rejected.contains v.kind with _ | _
  · have haccept : (store s).answer k.schema v = (store s).accept k.schema v := by
      unfold ObjectStore.answer
      rw [hr, if_neg Bool.false_ne_true]
    rw [haccept]
    exact .inl ⟨rfl, rfl⟩
  · rw [ObjectStore.answer_rejected v hr]
    exact .inr ⟨⟨_, rfl⟩, rfl⟩

/-! ## Programs over verbs -/

theorem perform_bind {α β : Type} (x : Verb.Task Spec Status α) (f : α → Verb.Task Spec Status β) :
    k.perform (x >>= f) = k.perform x >>= fun a => k.perform (f a) := by
  refine (Program.answerWith_bind k.send x.run _).trans ?_
  change _ = (x.run.answerWith k.send).bind _
  congr 1
  funext r
  cases r <;> rfl

theorem flush_keeps {τ : Type} {before after : Status} {r : Except ControllerError Unit}
    (hsend : k.Sends own) (view : σ → τ)
    (hview : ∀ patch s, view (answer (own (.patchStatus name patch)) s).2 = view s)
    (h : Program.Runs answer (k.flush name before after) s r s' asked) : view s' = view s := by
  refine h.preserves (P := fun q => ∃ patch, q = own (.patchStatus name patch))
    (fun t => view t = view s) (fun q t hq ht => ?_) (asked_flush hsend h) rfl
  obtain ⟨patch, rfl⟩ := hq
  exact (hview patch t).trans ht

theorem flush_inv {empty after : Status} {r : Except ControllerError Unit}
    (hw : k.Written) (hempty : k.schema.status.encode empty = .object [])
    (hk : k.Keeps own answer store) (hget : (store s).objects.get? name = some o)
    (hafter : after ≠ empty)
    (h : Program.Runs answer (k.flush name (o.status.getD empty) after) s r s' asked) :
    (r = .ok () ∧ (store s').objects.get? name = some { o with status := some after }) ∨
      ∃ e, r = .error e ∧ store s' = store s := by
  obtain ⟨hrun, -⟩ := h
  unfold flush at hrun
  dsimp only at hrun
  by_cases he : (k.statusPatch (o.status.getD empty) after).isEmptyPatch = true
  · rw [if_pos he] at hrun
    obtain ⟨rfl, rfl⟩ := Prod.mk.inj hrun
    have hsame : o.status.getD empty = after := hw.lawful.encode_injective
      (Json.eq_of_isEmptyPatch (hw.lawful.plain _) (hw.lawful.plain _) (hw.isObject _) he)
    have hstatus : o.status = some after := by
      rcases hb : o.status with _ | before
      · rw [hb] at hsame
        exact absurd hsame.symm hafter
      · rw [hb] at hsame
        exact congrArg some hsame
    exact .inl ⟨rfl, by rw [hget, ← hstatus]⟩
  · rw [if_neg he, perform_ask] at hrun
    change (k.send _).run answer s = _ at hrun
    have hstore := hk.send (.patchStatus name (k.statusPatch (o.status.getD empty) after)) s
    rw [hrun, statusPatch, ObjectStore.accept_patchStatus hw.lawful hempty hget after] at hstore
    rcases hstore with ⟨hr, hstore⟩ | ⟨⟨e, hr⟩, hstore⟩
    · rw [hstore]
      exact .inl ⟨hr, ObjectStore.get?_withStatus _ _⟩
    · exact .inr ⟨e, hr, hstore⟩

theorem ensure_asked {wanted : Bool} {finalizer : String} {r : Except ControllerError Bool}
    (hsend : k.Sends own) (hname : o.metadata.name = some name)
    (h : Program.Runs answer (k.perform (ensure wanted o finalizer)) s r s' asked) :
    ((finalizer ∈ o.metadata.finalizerList ↔ wanted = true) ∧ r = .ok false ∧ s' = s ∧ asked = []) ∨
      ¬ (finalizer ∈ o.metadata.finalizerList ↔ wanted = true) ∧
        ∃ reply, Program.Runs answer (ExceptT.mk (k.send
            (.patchFinalizers name (ensured wanted finalizer o.metadata.finalizerList)))) s reply s'
            asked ∧
          r = reply.map (fun _ => true) ∧ ∃ a, asked = [a] ∧
            a.1 = own (.patchFinalizers name (ensured wanted finalizer o.metadata.finalizerList)) ∧
            refusal? a = error? reply := by
  by_cases hiff : finalizer ∈ o.metadata.finalizerList ↔ wanted = true
  · rw [ensure_of_iff hname hiff] at h
    obtain ⟨hrun, htrace⟩ := h
    obtain ⟨rfl, rfl⟩ := Prod.mk.inj hrun
    exact .inl ⟨hiff, rfl, rfl, htrace.symm⟩
  · rw [ensure_of_not_iff hname hiff, perform_bind, perform_ask] at h
    obtain ⟨reply, hx, rfl⟩ := h.bind_pure_inv
    exact .inr ⟨hiff, reply, hx, rfl, hsend.asked_inv hx⟩

/-- What is found of a resource after a patch of its finalizers, given the question with its answer: the
resource with the other list, or what was there if the patch was refused. -/
def afterPatch (o : Object Spec Status) (fs : List String) (a : Program.Asked Query.Answer) :
    Option (Object Spec Status) :=
  if (refusal? a).isSome then some o else o.withFinalizers fs

theorem afterPatch_of_none {fs : List String} {a : Program.Asked Query.Answer}
    (h : refusal? a = none) : afterPatch o fs a = o.withFinalizers fs := by
  unfold afterPatch
  rw [h]
  rfl

theorem afterPatch_of_some {fs : List String} {a : Program.Asked Query.Answer} {e : ControllerError}
    (h : refusal? a = some e) : afterPatch o fs a = some o := by
  unfold afterPatch
  rw [h]
  rfl

theorem status_afterPatch {p : Object Spec Status} {fs : List String}
    {a : Program.Asked Query.Answer} (h : afterPatch o fs a = some p) : p.status = o.status := by
  unfold afterPatch at h
  split at h
  · cases h
    rfl
  · exact (Object.relisted_of_withFinalizers h).status_eq

theorem ensure_inv {wanted : Bool} {finalizer : String} {r : Except ControllerError Bool}
    (hsend : k.Sends own) (hk : k.Keeps own answer store) (hname : o.metadata.name = some name)
    (hget : (store s).objects.get? name = some o)
    (h : Program.Runs answer (k.perform (ensure wanted o finalizer)) s r s' asked) :
    ((finalizer ∈ o.metadata.finalizerList ↔ wanted = true) ∧ s' = s ∧ asked = []) ∨
      ¬ (finalizer ∈ o.metadata.finalizerList ↔ wanted = true) ∧
        ∃ a, asked = [a] ∧
          a.1 = own (.patchFinalizers name (ensured wanted finalizer o.metadata.finalizerList)) ∧
          (store s').objects.get? name =
            afterPatch o (ensured wanted finalizer o.metadata.finalizerList) a := by
  rcases ensure_asked hsend hname h with ⟨hiff, -, hs, ht⟩ | ⟨hiff, reply, hx, -, a, ht, ha, hreply⟩
  · exact .inl ⟨hiff, hs, ht⟩
  · refine .inr ⟨hiff, a, ht, ha, ?_⟩
    have haccept (fs : List String) : (store s).accept k.schema (.patchFinalizers name fs) =
        (.ok (), (store s).setFinalizers name fs o) := by
      dsimp only [ObjectStore.accept]
      rw [hget]
    have hrun : (k.send (.patchFinalizers name
        (ensured wanted finalizer o.metadata.finalizerList))).run answer s = (reply, s') := hx.run_eq
    have hstore := hk.send
      (.patchFinalizers name (ensured wanted finalizer o.metadata.finalizerList)) s
    rw [haccept, hrun] at hstore
    rcases hstore with ⟨rfl, hstore⟩ | ⟨⟨e, rfl⟩, hstore⟩
    · rw [hstore, ObjectStore.get?_setFinalizers, afterPatch_of_none hreply]
    · rw [hstore, hget, afterPatch_of_some hreply]

/-! ## What an attempt consists of -/

variable {observe : Object Spec Status → String → Observation Status Action}
  {r : Except ControllerError Action}

theorem reconcile_eq (hname : o.metadata.name = some name) :
    k.reconcile observe o =
      if o.metadata.isDeleting = true then
        k.perform (ensure false o Group.finalizer) >>= fun _ => pure .awaitChange
      else
        k.perform (ensure true o Group.finalizer) >>= fun added =>
          if added = true then pure (.requeue 0) else k.compare (observe o name) name o := by
  have hself : o.name = .ok name := by rw [Object.name, hname]
  unfold reconcile
  rw [hself]
  rfl

theorem reconcile_inv (hsend : k.Sends own) (hname : o.metadata.name = some name)
    (h : Program.Runs answer (k.reconcile observe o) s r s' asked) :
    (∃ wanted rx, o.metadata.isDeleting = !wanted ∧
        (wanted = true → Group.finalizer ∉ o.metadata.finalizerList) ∧
        Program.Runs answer (k.perform (ensure wanted o Group.finalizer)) s rx s' asked) ∨
      o.metadata.isDeleting = false ∧ Group.finalizer ∈ o.metadata.finalizerList ∧
        Program.Runs answer (k.compare (observe o name) name o) s r s' asked := by
  rw [reconcile_eq hname] at h
  rcases hdel : o.metadata.isDeleting with _ | _
  · rw [hdel, if_neg Bool.false_ne_true] at h
    by_cases hown : Group.finalizer ∈ o.metadata.finalizerList
    · rw [ensure_of_iff hname (iff_of_true hown rfl)] at h
      exact .inr ⟨rfl, hown, h⟩
    · refine .inl ⟨true, ?_⟩
      rcases h.bind_inv with ⟨e, rfl, hx⟩ | ⟨added, s₁, t₁, t₂, hx, hf, rfl⟩
      · exact ⟨_, rfl, fun _ => hown, hx⟩
      · rcases ensure_asked hsend hname hx with ⟨hiff, -⟩ | ⟨-, reply, -, hadded, -⟩
        · exact absurd (hiff.mpr rfl) hown
        · have hadded : added = true := by
            rcases reply with e | ⟨⟩ <;> cases hadded
            rfl
          rw [if_pos hadded] at hf
          obtain ⟨-, rfl, rfl⟩ := hf.pure_inv
          rw [List.append_nil]
          exact ⟨_, rfl, fun _ => hown, hx⟩
  · rw [if_pos hdel] at h
    obtain ⟨rx, hx, -⟩ := h.bind_pure_inv
    exact .inl ⟨false, rx, rfl, fun hw => absurd hw Bool.false_ne_true, hx⟩

/-! ## All ways to go -/

/-- What an attempt at a resource of a kind relies on: how the statuses of the kind are made, that its
resources are asked about with `own` only by the attempt itself, and how a comparison moves a status that
has a state. -/
structure Managed (k : Kind Spec Status) (own : Verb Spec Status → Query)
    (observe : Object Spec Status → String → Observation Status Action) : Prop where
  lenses : k.Lenses
  written : k.Written
  encode_empty : k.schema.status.encode k.empty = .object []
  state_empty : k.state k.empty = none
  conditions_empty : k.conditions k.empty = []
  conditions_setState : ∀ state b, k.conditions (k.setState state b) = k.conditions b
  sends : k.Sends own
  now_ne : ∀ v, Query.now ≠ own v
  quiet : ∀ v, (own v).Engages → v.kind = .apply
  asks : ∀ o name, Asks (fun q => ∀ v, q ≠ own v) (observe o name)
  moves : ∀ {σ : Type} {answer : (q : Query) → σ → q.Answer × σ} {o name b s r b' s' asked},
    Observes answer (observe o name) b s r b' s' asked → (k.state b).isSome = true →
      k.conditions b' = k.conditions b ∧
        (k.state b' = k.state b ∨ k.state b' = some .ready ∨ k.state b' = some .failed)

theorem Managed.isSome_sinceSeen (hm : k.Managed own observe) {b b' : Status}
    (h : Observes answer (k.sinceSeen (observe o name)) b s r b' s' asked) :
    (k.state b').isSome = true := by
  rcases hb : k.state b with _ | state
  · obtain ⟨-, rfl, -, -⟩ := sinceSeen_inv hb h
    rw [hm.lenses.state_setState]
    rfl
  · have hseen : (k.state b).isSome = true := by rw [hb]; rfl
    obtain ⟨-, hstate | hstate | hstate⟩ := hm.moves ((observes_sinceSeen hseen).mp h) hseen
    · rw [hstate, hseen]
    · rw [hstate]
      rfl
    · rw [hstate]
      rfl

theorem reconcile_of_nameless (hname : o.metadata.name = none)
    (h : Program.Runs answer (k.reconcile observe o) s r s' asked) : s' = s ∧ asked = [] := by
  have hself : o.name = .error (.missingField "metadata.name") := by rw [Object.name, hname]
  obtain ⟨hrun, htrace⟩ := h
  unfold reconcile at hrun htrace
  rw [hself] at hrun htrace
  obtain ⟨-, rfl⟩ := Prod.mk.inj hrun
  exact ⟨rfl, htrace.symm⟩

/-- A question for the time, or one that patches the resource with a name. -/
def Routine (own : Verb Spec Status → Query) (name : String) (q : Query) : Prop :=
  q = .now ∨ ∃ v : Verb Spec Status, v.Patches name ∧ q = own v

/-- **What is asked.** An attempt asks what a comparison asks, if the resource is compared with its
device at all, and after that only about the resource itself. -/
theorem Managed.asked_inv (hm : k.Managed own observe)
    (h : Program.Runs answer (k.reconcile observe o) s r s' asked) :
    ∃ t₁ t₂, asked = t₁ ++ t₂ ∧ (∀ a ∈ t₂, ∃ name, o.metadata.name = some name ∧ Routine own name a.1) ∧
      (t₁ = [] ∨ Group.finalizer ∈ o.metadata.finalizerList ∧ o.metadata.isDeleting = false ∧
        (k.state (o.status.getD k.empty)).isSome = true ∧
        ∃ name outcome status s₁, o.metadata.name = some name ∧
          Observes answer (observe o name) (o.status.getD k.empty) s outcome status s₁ t₁) := by
  rcases hname : o.metadata.name with _ | name
  · obtain ⟨-, rfl⟩ := reconcile_of_nameless hname h
    exact ⟨[], [], rfl, fun _ ha => absurd ha List.not_mem_nil, .inl rfl⟩
  rcases reconcile_inv hm.sends hname h with ⟨wanted, rx, -, -, hx⟩ | ⟨hlive, hown, hx⟩
  · refine ⟨[], asked, rfl, ?_, .inl rfl⟩
    rcases ensure_asked hm.sends hname hx with ⟨-, -, -, rfl⟩ | ⟨-, reply, -, -, a, rfl, ha, -⟩
    · exact fun _ ha => absurd ha List.not_mem_nil
    · exact List.forall_mem_singleton.mpr
        ⟨name, rfl, .inr ⟨.patchFinalizers name _, rfl, ha⟩⟩
  · obtain ⟨outcome, status, s₁, t₁, flushed, t₂, hobs, hflush, -, rfl⟩ :=
      compare_inv (fun _ _ _ _ ho => hm.isSome_sinceSeen ho) hx
    refine ⟨t₁, _, rfl, List.forall_mem_cons.mpr ⟨⟨name, rfl, .inl rfl⟩, fun a ha => ?_⟩, ?_⟩
    · obtain ⟨patch, hpatch⟩ := asked_flush hm.sends hflush a ha
      exact ⟨name, rfl, .inr ⟨.patchStatus name patch, rfl, hpatch⟩⟩
    · rcases hs : k.state (o.status.getD k.empty) with _ | state
      · exact .inl (sinceSeen_inv hs hobs).2.2.2
      · have hseen : (k.state (o.status.getD k.empty)).isSome = true := by rw [hs]; rfl
        exact .inr ⟨hown, hlive, rfl, name, outcome, status, s₁, rfl,
          (observes_sinceSeen hseen).mp hobs⟩

variable (k own answer observe s o) in
/-- The ways in which an attempt at a stored resource goes: what is stored afterwards, and the questions
that were asked. -/
inductive Course : Option (Object Spec Status) → List (Program.Asked Query.Answer) → Prop
  | nameless (hname : o.metadata.name = none) : Course (some o) []
  | idle {name : String} (hname : o.metadata.name = some name)
    (hdel : o.metadata.isDeleting = true) (hown : Group.finalizer ∉ o.metadata.finalizerList) :
    Course (some o) []
  | released {name : String} {a : Program.Asked Query.Answer} (hname : o.metadata.name = some name)
    (hdel : o.metadata.isDeleting = true) (hown : Group.finalizer ∈ o.metadata.finalizerList)
    (ha : a.1 =
      own (.patchFinalizers name (ensured false Group.finalizer o.metadata.finalizerList))) :
    Course (afterPatch o (ensured false Group.finalizer o.metadata.finalizerList) a) [a]
  | claimed {name : String} {a : Program.Asked Query.Answer} (hname : o.metadata.name = some name)
    (hlive : o.metadata.isDeleting = false) (hown : Group.finalizer ∉ o.metadata.finalizerList)
    (ha : a.1 =
      own (.patchFinalizers name (ensured true Group.finalizer o.metadata.finalizerList))) :
    Course (afterPatch o (ensured true Group.finalizer o.metadata.finalizerList) a) [a]
  | compared {name : String} {found : Option (Object Spec Status)}
    {outcome : Except ControllerError Action} {status : Status} {s₁ : σ} {time : String}
    {t₁ asked : List (Program.Asked Query.Answer)} (hname : o.metadata.name = some name)
    (hlive : o.metadata.isDeleting = false) (hown : Group.finalizer ∈ o.metadata.finalizerList)
    (hobs : Observes answer (k.sinceSeen (observe o name)) (o.status.getD k.empty) s outcome status s₁
      t₁)
    (hfound : found = some o ∨ found =
      some { o with status := some (k.judge o.metadata.generation outcome time status) }) :
    Course found asked

/-- What is stored after a comparison: the status that comes of it if the write succeeds, and the same as
before if it fails. -/
theorem Managed.compare_inv (hm : k.Managed own observe) (hk : k.Keeps own answer store)
    (hget : (store s).objects.get? name = some o)
    (h : Program.Runs answer (k.compare (observe o name) name o) s r s' asked) :
    ∃ outcome status s₁ t₁ flushed t₂,
      Observes answer (k.sinceSeen (observe o name)) (o.status.getD k.empty) s outcome status s₁ t₁ ∧
      Program.Runs answer
        (k.flush name (o.status.getD k.empty)
          (k.judge o.metadata.generation outcome (answer .now s₁).1 status))
        (answer .now s₁).2 flushed s' t₂ ∧
      r = settle (k.excuse outcome) flushed ∧
      asked = t₁ ++ ⟨.now, (answer .now s₁).1⟩ :: t₂ ∧
      ((flushed = .ok () ∧ (store s').objects.get? name = some { o with
          status := some (k.judge o.metadata.generation outcome (answer .now s₁).1 status) }) ∨
        ∃ e, flushed = .error e ∧ store s' = store s) := by
  obtain ⟨outcome, status, s₁, t₁, flushed, t₂, hobs, hflush, hr, ht⟩ :=
    Kind.compare_inv (fun _ _ _ _ ho => hm.isSome_sinceSeen ho) h
  -- neither the comparison nor the question for the time is about the resource
  have hkept : store s₁ = store s :=
    hobs.keeps (P := fun q => ∀ v, q ≠ own v) store (fun q s hq => hk.other q s hq)
      (asks_sinceSeen (hm.asks o name))
  have hnow : store (answer .now s₁).2 = store s := (hk.other .now s₁ hm.now_ne).trans hkept
  -- a status with a state is not the empty one
  have hne : k.judge o.metadata.generation outcome (answer .now s₁).1 status ≠ k.empty := by
    intro he
    have hstate := hm.isSome_sinceSeen hobs
    rw [← hm.lenses.state_judge o.metadata.generation outcome (answer .now s₁).1, he,
      hm.state_empty] at hstate
    cases hstate
  have hstored := flush_inv hm.written hm.encode_empty hk (by rw [hnow]; exact hget) hne hflush
  rw [hnow] at hstored
  exact ⟨outcome, status, s₁, t₁, flushed, t₂, hobs, hflush, hr, ht, hstored⟩

/-- **An attempt at a stored resource goes in one of these ways.** -/
theorem course_of_runs (hm : k.Managed own observe) (hk : k.Keeps own answer store)
    (hget : (store s).objects.get? (o.metadata.name.getD "") = some o)
    (h : Program.Runs answer (k.reconcile observe o) s r s' asked) :
    k.Course own answer o s observe ((store s').objects.get? (o.metadata.name.getD "")) asked := by
  rcases hname : o.metadata.name with _ | name
  · obtain ⟨rfl, rfl⟩ := reconcile_of_nameless hname h
    rw [hname] at hget
    rw [hget]
    exact .nameless hname
  rw [hname, Option.getD_some] at hget
  rw [Option.getD_some]
  rcases reconcile_inv hm.sends hname h with ⟨wanted, rx, hdel, hother, hx⟩ | ⟨hlive, hown, hx⟩
  · rcases ensure_inv hm.sends hk hname hget hx with ⟨hiff, rfl, rfl⟩ | ⟨hiff, a, rfl, ha, hfound⟩
    · rw [hget]
      cases wanted with
      | true => exact absurd (hiff.mpr rfl) (hother rfl)
      | false => exact .idle hname hdel fun hown => Bool.false_ne_true (hiff.mp hown)
    · rw [hfound]
      cases wanted with
      | true => exact .claimed hname hdel (hother rfl) ha
      | false =>
        have hown : Group.finalizer ∈ o.metadata.finalizerList :=
          Decidable.byContradiction fun hown => hiff (iff_of_false hown Bool.false_ne_true)
        exact .released hname hdel hown ha
  · obtain ⟨outcome, status, s₁, t₁, flushed, t₂, hobs, -, -, -, hfound⟩ := hm.compare_inv hk hget hx
    have hstored : (store s').objects.get? name = some o ∨ (store s').objects.get? name =
        some { o with
          status := some (k.judge o.metadata.generation outcome (answer .now s₁).1 status) } := by
      rcases hfound with ⟨-, hfound⟩ | ⟨e, -, hfound⟩
      · exact .inr hfound
      · exact .inl (hfound ▸ hget)
    exact .compared hname hlive hown hobs hstored

end Kind

end Controller

end SwitchFleet
