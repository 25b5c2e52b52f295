import SwitchFleet.Proofs.Controller.Flush

/-!
# Finalizers and other writers

A finalizer is added or removed by replacing the whole list, which is computed from a copy of the
resource. Other writers may have changed the list since that copy was read.

* `Object.withFinalizers`: a resource whose finalizers were replaced, and the look-up of it.
* `Foreign`: a change of the list by a writer that leaves our finalizer alone, and
  `ObjectStore.afterAll`: the resources after some of these.
* **`ensure_afterAll`**: what is stored after the finalizer was added or removed on the strength of the
  copy. `list_lost`: the change of another writer is undone by this.
-/

namespace SwitchFleet

variable {Spec Status : Type}

/-! ## Finalizers that are replaced -/

/-- A resource with other finalizers. One that is being deleted goes away with the last of them. -/
def Object.withFinalizers (finalizers : List String) (o : Object Spec Status) :
    Option (Object Spec Status) :=
  if finalizers.isEmpty && o.metadata.isDeleting then none
  else
    let kept := if finalizers.isEmpty then none else some finalizers
    some { o with metadata := { o.metadata with finalizers := kept } }

namespace Object

variable {o p : Object Spec Status} {fs : List String}

theorem withFinalizers_eq_none :
    o.withFinalizers fs = none ↔ fs = [] ∧ o.metadata.isDeleting = true := by
  unfold withFinalizers
  split
  · rename_i h
    simpa [Bool.and_eq_true] using h
  · rename_i h
    simpa [Bool.and_eq_true] using h

/-- A resource that is another one with the finalizers `fs`. -/
structure Relisted (fs : List String) (o p : Object Spec Status) : Prop where
  eq : p = { o with metadata := { o.metadata with finalizers := p.metadata.finalizers } }
  finalizerList_eq : p.metadata.finalizerList = fs

theorem relisted_of_withFinalizers (h : o.withFinalizers fs = some p) : Relisted fs o p := by
  unfold withFinalizers at h
  split at h
  · cases h
  · cases h
    refine ⟨rfl, ?_⟩
    unfold Metadata.finalizerList
    cases fs <;> rfl

theorem Relisted.isDeleting_eq (h : Relisted fs o p) :
    p.metadata.isDeleting = o.metadata.isDeleting := congrArg (·.metadata.isDeleting) h.eq

theorem Relisted.status_eq (h : Relisted fs o p) : p.status = o.status :=
  congrArg (·.status) h.eq

end Object

namespace ObjectStore

variable {s : Schema Spec Status} {t : ObjectStore Spec Status} {name : String}
  {o : Object Spec Status} {fs : List String}

@[simp] theorem get?_setFinalizers :
    (t.setFinalizers name fs o).objects.get? name = o.withFinalizers fs := by
  unfold setFinalizers Object.withFinalizers
  split <;> simp [insert]

@[simp] theorem rejected_setFinalizers : (t.setFinalizers name fs o).rejected = t.rejected := by
  unfold setFinalizers
  split <;> rfl

theorem answer_patchFinalizers (hr : t.rejected.contains Verb.Kind.patchFinalizers = false) :
    t.answer s (.patchFinalizers name fs) =
      match t.objects.get? name with
      | none => (.error (notFound name), t)
      | some o => (.ok (), t.setFinalizers name fs o) := by
  unfold answer
  change (if t.rejected.contains Verb.Kind.patchFinalizers = true then _ else _) = _
  rw [hr, if_neg Bool.false_ne_true]
  rfl

end ObjectStore

/-! ## Other writers -/

/-- A change of the finalizers by a writer that leaves the finalizer `own` alone. -/
inductive Foreign (own : String) where
  | add (f : String) (h : f ≠ own)
  | remove (f : String) (h : f ≠ own)

namespace Foreign

variable {own : String}

/-- The finalizers after a change. -/
def change : Foreign own → List String → List String
  | add f _, fs => if fs.contains f then fs else fs ++ [f]
  | remove f _, fs => fs.filter (· != f)

theorem mem_change (w : Foreign own) (fs : List String) : own ∈ w.change fs ↔ own ∈ fs := by
  cases w with
  | add f h =>
    by_cases hf : f ∈ fs
    · simp [change, hf]
    · simp [change, hf, Ne.symm h]
  | remove f h => simpa [change] using fun _ => Ne.symm h

end Foreign

namespace ObjectStore

variable {own name : String} {o p : Object Spec Status}

/-- The resources after a change by another writer. -/
def after (name : String) (w : Foreign own) (t : ObjectStore Spec Status) :
    ObjectStore Spec Status :=
  match t.objects.get? name with
  | none => t
  | some o => t.setFinalizers name (w.change o.metadata.finalizerList) o

/-- The resources after several changes, one after the other. -/
def afterAll (name : String) (ws : List (Foreign own)) (t : ObjectStore Spec Status) :
    ObjectStore Spec Status :=
  ws.foldl (fun t w => t.after name w) t

/-- The resource with a name, if it is still there, has our finalizer exactly if a copy of it has, and
is being deleted exactly if the copy is. -/
def Resembles (own name : String) (o : Object Spec Status) (t : ObjectStore Spec Status) : Prop :=
  ∀ p, t.objects.get? name = some p →
    (own ∈ p.metadata.finalizerList ↔ own ∈ o.metadata.finalizerList) ∧
      p.metadata.isDeleting = o.metadata.isDeleting

theorem Resembles.after {t : ObjectStore Spec Status} (h : Resembles own name o t)
    (w : Foreign own) : Resembles own name o (t.after name w) := by
  intro p hp
  unfold ObjectStore.after at hp
  split at hp
  · rename_i hnone
    rw [hnone] at hp
    cases hp
  · rename_i q hq
    rw [get?_setFinalizers] at hp
    have hlist := Object.relisted_of_withFinalizers hp
    obtain ⟨hown, hdel⟩ := h q hq
    rw [hlist.finalizerList_eq, hlist.isDeleting_eq, w.mem_change]
    exact ⟨hown, hdel⟩

theorem Resembles.afterAll {t : ObjectStore Spec Status} (h : Resembles own name o t)
    (ws : List (Foreign own)) : Resembles own name o (t.afterAll name ws) := by
  induction ws generalizing t with
  | nil => exact h
  | cons w ws ih => exact ih (h.after w)

theorem rejected_after (w : Foreign own) (t : ObjectStore Spec Status) :
    (t.after name w).rejected = t.rejected := by
  unfold after
  split
  · rfl
  · exact rejected_setFinalizers

theorem rejected_afterAll (ws : List (Foreign own)) (t : ObjectStore Spec Status) :
    (t.afterAll name ws).rejected = t.rejected := by
  induction ws generalizing t with
  | nil => rfl
  | cons w ws ih => exact (ih _).trans (rejected_after w t)

end ObjectStore

/-! ## Finalizers that are ensured -/

/-- A list of finalizers with our own one added, or removed. -/
def ensured (wanted : Bool) (own : String) (fs : List String) : List String :=
  if wanted then if fs.contains own then fs else fs ++ [own] else fs.filter (· != own)

/-- Adds our own finalizer to a resource, or removes it. -/
def ensure (wanted : Bool) (o : Object Spec Status) (own : String) : Verb.Task Spec Status Bool :=
  if wanted then ensureFinalizer o own else ensureNoFinalizer o own

section

variable {wanted : Bool} {own name : String} {fs : List String} {o : Object Spec Status}

theorem ensured_eq_self (h : own ∈ fs ↔ wanted = true) : ensured wanted own fs = fs := by
  unfold ensured
  cases wanted with
  | true => simp [h]
  | false =>
    have hown : ∀ f ∈ fs, f ≠ own := fun f hf he => Bool.false_ne_true (h.mp (he ▸ hf))
    simpa using hown

theorem mem_ensured {f : String} (hf : f ≠ own) : f ∈ ensured wanted own fs ↔ f ∈ fs := by
  unfold ensured
  cases wanted with
  | true =>
    by_cases hown : own ∈ fs
    · simp [hown]
    · simp [hown, hf]
  | false => simp [hf]

theorem ensured_eq_nil (h : ¬ (own ∈ fs ↔ wanted = true)) :
    ensured wanted own fs = [] ↔ wanted = false ∧ ∀ f ∈ fs, f = own := by
  unfold ensured
  cases wanted with
  | true =>
    have hown : own ∉ fs := fun hown => h (iff_of_true hown rfl)
    simp [hown]
  | false => simp

theorem ensureFinalizer_eq (hname : o.metadata.name = some name) :
    ensureFinalizer o own =
      if o.metadata.finalizerList.contains own = true then pure false
      else do
        Verb.ask (.patchFinalizers name (o.metadata.finalizerList ++ [own]))
        return true := by
  have hself : o.name = .ok name := by rw [Object.name, hname]
  unfold ensureFinalizer
  rw [hself]
  rfl

theorem ensureNoFinalizer_eq (hname : o.metadata.name = some name) :
    ensureNoFinalizer o own =
      if o.metadata.finalizerList.contains own = false then pure false
      else do
        Verb.ask (.patchFinalizers name (o.metadata.finalizerList.filter (· != own)))
        return true := by
  have hself : o.name = .ok name := by rw [Object.name, hname]
  unfold ensureNoFinalizer
  rw [hself]
  dsimp only
  cases o.metadata.finalizerList.contains own <;> rfl

theorem ensure_of_iff (hname : o.metadata.name = some name)
    (h : own ∈ o.metadata.finalizerList ↔ wanted = true) :
    ensure wanted o own = pure false := by
  unfold ensure
  cases wanted with
  | true =>
    have hown : o.metadata.finalizerList.contains own = true := List.contains_iff_mem.mpr (h.mpr rfl)
    rw [if_pos rfl, ensureFinalizer_eq hname, if_pos hown]
  | false =>
    have hown : own ∉ o.metadata.finalizerList := fun hown => Bool.false_ne_true (h.mp hown)
    have hown : o.metadata.finalizerList.contains own = false := by simpa using hown
    rw [if_neg Bool.false_ne_true, ensureNoFinalizer_eq hname, if_pos hown]

theorem ensure_of_not_iff (hname : o.metadata.name = some name)
    (h : ¬ (own ∈ o.metadata.finalizerList ↔ wanted = true)) :
    ensure wanted o own = do
      Verb.ask (.patchFinalizers name (ensured wanted own o.metadata.finalizerList))
      return true := by
  unfold ensure ensured
  cases wanted with
  | true =>
    have hown : ¬ o.metadata.finalizerList.contains own = true := by simpa using h
    rw [if_pos rfl, if_pos rfl, ensureFinalizer_eq hname, if_neg hown, if_neg hown]
  | false =>
    have hown : ¬ o.metadata.finalizerList.contains own = false := by simpa using h
    rw [if_neg Bool.false_ne_true, if_neg Bool.false_ne_true, ensureNoFinalizer_eq hname,
      if_neg hown]

end

/-! ## Lists that are replaced on the strength of a copy -/

/-- What is found of a resource `p` after its finalizers were replaced by those of a copy, with our own
one added or removed. -/
structure Replaced (wanted : Bool) (own : String) (copied : List String) (p : Object Spec Status)
    (found : Option (Object Spec Status)) : Prop where
  eq : found = p.withFinalizers (ensured wanted own copied)
  /-- The resource goes away if the copy had no finalizer but our own. -/
  gone_iff : found = none ↔
    wanted = false ∧ (∀ f ∈ copied, f = own) ∧ p.metadata.isDeleting = true
  /-- The finalizers of others are those of the copy. -/
  foreign : ∀ q, found = some q → ∀ f, f ≠ own → (f ∈ q.metadata.finalizerList ↔ f ∈ copied)
  /-- The changes of others are kept if they make no difference to the list that is written. -/
  kept_iff : ∀ q, found = some q →
    (q.metadata.finalizerList = ensured wanted own p.metadata.finalizerList ↔
      ensured wanted own copied = ensured wanted own p.metadata.finalizerList)

theorem replaced_withFinalizers {wanted : Bool} {own : String} {copied : List String}
    (h : ¬ (own ∈ copied ↔ wanted = true)) (p : Object Spec Status) :
    Replaced wanted own copied p (p.withFinalizers (ensured wanted own copied)) := by
  refine ⟨rfl, ?_, fun q hq f hf => ?_, fun q hq => ?_⟩
  · rw [Object.withFinalizers_eq_none, ensured_eq_nil h, and_assoc]
  · rw [(Object.relisted_of_withFinalizers hq).finalizerList_eq, mem_ensured hf]
  · rw [(Object.relisted_of_withFinalizers hq).finalizerList_eq]

namespace ObjectStore

variable {s : Schema Spec Status} {t : ObjectStore Spec Status} {wanted : Bool} {own name : String}
  {o : Object Spec Status} {α : Type}

/-- The outcome of a program over verbs, and the resources after it. -/
def perform (s : Schema Spec Status) (task : Verb.Task Spec Status α)
    (t : ObjectStore Spec Status) : Except ControllerError α × ObjectStore Spec Status :=
  task.run.run (fun v t => t.answer s v) t

theorem perform_ensure (hname : o.metadata.name = some name)
    (h : ¬ (own ∈ o.metadata.finalizerList ↔ wanted = true)) :
    t.perform s (ensure wanted o own) =
      let (r, t') := t.answer s (.patchFinalizers name (ensured wanted own o.metadata.finalizerList))
      (r.map fun _ => true, t') := by
  rw [ensure_of_not_iff hname h]
  unfold perform
  rw [ExceptT.run_bind, Program.bind_eq, Program.run_bind]
  rcases ha : t.answer s (.patchFinalizers name (ensured wanted own o.metadata.finalizerList)) with
    ⟨e | ⟨⟩, t'⟩
  · simp [Verb.ask, Program.query, ha, Except.map]
  · simp [Verb.ask, Program.query, ha, Except.map]

/-- **Finalizers are replaced.** Our finalizer is added to a resource, or removed from it, on the
strength of a copy, after other writers changed the list. If the copy shows that there is something to
do, then the list of the copy is written, with our own finalizer added or removed. -/
theorem ensure_afterAll (hname : o.metadata.name = some name)
    (hget : t.objects.get? name = some o) (ws : List (Foreign own)) :
    let t' := t.afterAll name ws
    let (r, t'') := t'.perform s (ensure wanted o own)
    match r with
    | .error e =>
      t'' = t' ∧ ¬ (own ∈ o.metadata.finalizerList ↔ wanted = true) ∧
        (t.rejected.contains Verb.Kind.patchFinalizers = true ∧ e = rejection .patchFinalizers ∨
          t'.objects.get? name = none ∧ e = notFound name)
    | .ok false =>
      t'' = t' ∧ (own ∈ o.metadata.finalizerList ↔ wanted = true) ∧
        ∀ p, t'.objects.get? name = some p →
          p.metadata.finalizerList = ensured wanted own p.metadata.finalizerList
    | .ok true =>
      ¬ (own ∈ o.metadata.finalizerList ↔ wanted = true) ∧
        ∃ p, t'.objects.get? name = some p ∧
          Replaced wanted own o.metadata.finalizerList p (t''.objects.get? name) := by
  have hlike : Resembles own name o (t.afterAll name ws) := by
    refine Resembles.afterAll (fun p hp => ?_) ws
    obtain rfl := Option.some.inj (hget.symm.trans hp)
    exact ⟨Iff.rfl, rfl⟩
  have hrejected : (t.afterAll name ws).rejected = t.rejected := rejected_afterAll ws t
  dsimp only
  by_cases h : own ∈ o.metadata.finalizerList ↔ wanted = true
  · rw [ensure_of_iff hname h]
    exact ⟨rfl, h, fun p hp => (ensured_eq_self ((hlike p hp).1.trans h)).symm⟩
  rw [perform_ensure hname h]
  rcases hr : t.rejected.contains Verb.Kind.patchFinalizers with _ | _
  · rw [← hrejected] at hr
    rw [answer_patchFinalizers hr]
    rcases hp : (t.afterAll name ws).objects.get? name with _ | p
    · exact ⟨rfl, h, .inr ⟨rfl, rfl⟩⟩
    · refine ⟨h, p, rfl, ?_⟩
      dsimp only
      rw [get?_setFinalizers]
      exact replaced_withFinalizers h p
  · rw [← hrejected] at hr
    rw [answer_rejected (.patchFinalizers name _) hr]
    exact ⟨rfl, h, .inl ⟨rfl, rfl⟩⟩

/-! ## A list that is lost -/

/-- A switch with certain finalizers, which may be being deleted. -/
def finalizedSwitch (finalizers : List String) (deleted : Option Instant) : Switch where
  metadata := { Metadata.named "leaf" with
    finalizers := some finalizers
    deletionTimestamp := deleted }
  spec := ⟨.empty, "", []⟩
  status := none

/-- Resources with this switch alone. -/
def ofFinalized (finalizers : List String) (deleted : Option Instant) :
    ObjectStore SwitchSpec SwitchStatus :=
  empty.insert "leaf" (finalizedSwitch finalizers deleted)

/-- The finalizers of the switch, if it is still there. -/
def leafFinalizers (t : ObjectStore SwitchSpec SwitchStatus) : Option (List String) :=
  (t.objects.get? "leaf").map (·.metadata.finalizerList)

/-- Another writer protects the switch. -/
def protection : Foreign Group.finalizer := .add "b.example/y" (by decide)

/-- The general theorem at a switch that another writer protected before: it does not go away. -/
theorem ensure_protected :
    (finalizedSwitch ["b.example/y", Group.finalizer] (some ⟨0, false⟩)).metadata.name =
        some "leaf" ∧
      (ofFinalized ["b.example/y", Group.finalizer] (some ⟨0, false⟩)).objects.get? "leaf" =
        some (finalizedSwitch ["b.example/y", Group.finalizer] (some ⟨0, false⟩)) ∧
      (((ofFinalized ["b.example/y", Group.finalizer] (some ⟨0, false⟩)).afterAll "leaf"
        [protection]).perform Switch.schema
          (ensure false (finalizedSwitch ["b.example/y", Group.finalizer] (some ⟨0, false⟩))
            Group.finalizer)).2.objects.get? "leaf" ≠ none := by
  have h := @ensure_afterAll _ _ Switch.schema
    (ofFinalized ["b.example/y", Group.finalizer] (some ⟨0, false⟩)) false Group.finalizer "leaf"
    (finalizedSwitch ["b.example/y", Group.finalizer] (some ⟨0, false⟩)) rfl rfl [protection]
  obtain ⟨-, p, -, hreplaced⟩ := h
  refine ⟨rfl, rfl, fun hgone => ?_⟩
  obtain ⟨-, hall, -⟩ := hreplaced.gone_iff.mp hgone
  exact absurd (hall "b.example/y" List.mem_cons_self) (by decide)

/-- **A list that is lost.** The finalizer of another writer is dropped when our own is added, and a
switch that is being deleted goes away with our own although another writer protects it. -/
theorem list_lost :
    let t := (ofFinalized ["a.example/x"] none).afterAll "leaf" [protection]
    let added := t.perform Switch.schema
      (ensure true (finalizedSwitch ["a.example/x"] none) Group.finalizer)
    let u := (ofFinalized [Group.finalizer] (some ⟨0, false⟩)).afterAll "leaf" [protection]
    let removed := u.perform Switch.schema
      (ensure false (finalizedSwitch [Group.finalizer] (some ⟨0, false⟩)) Group.finalizer)
    (leafFinalizers t).map (ensured true Group.finalizer) =
        some ["a.example/x", "b.example/y", Group.finalizer] ∧
      leafFinalizers added.2 = some ["a.example/x", Group.finalizer] ∧
      (leafFinalizers u).map (ensured false Group.finalizer) = some ["b.example/y"] ∧
      leafFinalizers removed.2 = none :=
  ⟨by decide, by decide, by decide, by decide⟩

end ObjectStore

end SwitchFleet
