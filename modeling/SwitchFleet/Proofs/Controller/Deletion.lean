import Mathlib.Data.List.Induction
import SwitchFleet.Proofs.Controller.Naming

/-!
# Marks for deletion

A resource that is to be deleted is marked with the time of this, and it stays until nobody holds it
back with a finalizer any more. Patches keep the mark. A resource that is applied takes the mark of
what is applied, and what a switch applies for an interface is never marked.

* `StaysMarked`, `Gone`: a run after which a marked resource is still marked unless it went away.
  **`staysMarked_iff`**: this is so exactly if no step takes the mark away before that.
* `ObjectStore.remark`: what a verb makes of the mark. **`marked?_next`**: it does this to each.
* `World.marked?_after`: the mark after an attempt, computed from its questions. `marked?_after_switch`,
  `marked_or_gone_after_interface`: what this comes to.
* **`World.marked_until_gone`**: where marks are kept, in the store and under attempts. `mark_lost`:
  they are not, if a switch lists the interface that is to be deleted.
-/

namespace SwitchFleet

variable {Spec Status : Type}

/-! ## Runs -/

section

variable {σ α : Type} (step : σ → α → σ) (mark : σ → Option Bool)

/-- The resource was not there at some point of a run, be it the start or the end. -/
def Gone (s : σ) (steps : List α) : Prop :=
  ∃ first, first <+: steps ∧ mark (first.foldl step s) = none

/-- All along a run the resource is marked for deletion, until it goes away. -/
def StaysMarked (s : σ) (steps : List α) : Prop :=
  ∀ first, first <+: steps → mark (first.foldl step s) = some true ∨ Gone step mark s first

variable {step mark} {s : σ} {steps steps' : List α}

theorem Gone.mono (h : Gone step mark s steps) (hsteps : steps <+: steps') :
    Gone step mark s steps' := by
  obtain ⟨first, hfirst, hnone⟩ := h
  exact ⟨first, hfirst.trans hsteps, hnone⟩

/-- **Where marks are kept.** If the only steps that take a mark away are those that revive a resource,
then a mark stays exactly if no resource is revived that was there all the time. -/
theorem staysMarked_iff {Revives : σ → α → Prop}
    (hrevived : ∀ s a, Revives s a → mark (step s a) = some false)
    (hkept : ∀ s a, ¬ Revives s a → mark s = some true →
      mark (step s a) = some true ∨ mark (step s a) = none)
    (hs : mark s = some true) :
    StaysMarked step mark s steps ↔ ∀ before a after, steps = before ++ a :: after →
      Revives (before.foldl step s) a → Gone step mark s before := by
  have hlast (before : List α) (a : α) :
      (before ++ [a]).foldl step s = step (before.foldl step s) a := List.foldl_append
  refine ⟨fun h before a after hsteps hrevives => ?_, fun h first => ?_⟩
  · have hfalse := hrevived _ a hrevives
    rw [← hlast] at hfalse
    rcases h (before ++ [a]) ⟨after, by rw [hsteps]; simp⟩ with htrue | ⟨first, hfirst, hnone⟩
    · cases htrue.symm.trans hfalse
    · rcases List.prefix_concat_iff.mp hfirst with rfl | hfirst
      · cases hnone.symm.trans hfalse
      · exact ⟨first, hfirst, hnone⟩
  · -- the mark is there up to the first step that takes the resource away
    induction first using List.reverseRecOn with
    | nil => exact fun _ => .inl hs
    | append_singleton before a ih =>
      intro hfirst
      have hbefore : before <+: before ++ [a] := List.prefix_append ..
      rcases ih (hbefore.trans hfirst) with hmarked | hgone
      · by_cases hrevives : Revives (before.foldl step s) a
        · obtain ⟨after, hsteps⟩ := hfirst
          rw [List.append_assoc] at hsteps
          exact .inr ((h before a after hsteps.symm hrevives).mono hbefore)
        · rcases hkept _ a hrevives hmarked with htrue | hnone
          · exact .inl ((congrArg mark (hlast before a)).trans htrue)
          · exact .inr ⟨_, List.prefix_rfl, (congrArg mark (hlast before a)).trans hnone⟩
      · exact .inr (hgone.mono hbefore)

theorem not_staysMarked {a : α} (hs : mark s = some true) (ha : mark (step s a) = some false) :
    ¬ StaysMarked step mark s [a] := by
  intro h
  rcases h [a] List.prefix_rfl with htrue | ⟨first, hfirst, hnone⟩
  · cases htrue.symm.trans ha
  · rcases first with _ | ⟨b, first⟩
    · cases hnone.symm.trans hs
    · obtain ⟨rfl, hnil⟩ := List.cons_prefix_cons.mp hfirst
      obtain rfl := List.prefix_nil.mp hnil
      cases hnone.symm.trans ha

end

/-! ## Verbs -/

namespace ObjectStore

/-- Whether the resource under a name is marked for deletion, if there is one. -/
def marked? (name : String) (t : ObjectStore Spec Status) : Option Bool :=
  (t.objects.get? name).map (·.metadata.isDeleting)

/-- What a verb makes of the mark of the resource under a name, which may be there or not. -/
def remark (name : String) : Verb Spec Status → Option Bool → Option Bool
  | .get _, mark => mark
  | .patchFinalizers key fs, mark => if name = key ∧ fs = [] ∧ mark = some true then none else mark
  | .patchStatus .., mark => mark
  | .apply o, mark => if o.metadata.name = some name then some o.metadata.isDeleting else mark

/-- The store after a verb. -/
def next (s : Schema Spec Status) (t : ObjectStore Spec Status) (v : Verb Spec Status) :
    ObjectStore Spec Status := (t.answer s v).2

/-- A verb takes the mark of a resource away: a resource that is not marked is applied under the name. -/
def Revives (name : String) (t : ObjectStore Spec Status) (v : Verb Spec Status) : Prop :=
  t.rejected.contains v.kind = false ∧
    ∃ o, v = .apply o ∧ o.metadata.name = some name ∧ o.metadata.isDeleting = false

variable {s : Schema Spec Status} {t : ObjectStore Spec Status} {name : String}

theorem isDeleting_superseding (old : Option (Object Spec Status)) (new : Object Spec Status) :
    (superseding old new).metadata.isDeleting = new.metadata.isDeleting := by
  cases old <;> rfl

theorem isDeleting_withFinalizers (fs : List String) (o : Object Spec Status) :
    (o.withFinalizers fs).map (·.metadata.isDeleting) =
      if fs = [] ∧ o.metadata.isDeleting = true then none else some o.metadata.isDeleting := by
  rcases hp : o.withFinalizers fs with _ | p
  · rw [if_pos (Object.withFinalizers_eq_none.mp hp), Option.map_none]
  · have hkept : ¬ (fs = [] ∧ o.metadata.isDeleting = true) := fun h => by
      cases (Object.withFinalizers_eq_none.mpr h).symm.trans hp
    rw [if_neg hkept, Option.map_some, (Object.relisted_of_withFinalizers hp).isDeleting_eq]

theorem marked?_accept (v : Verb Spec Status) :
    (t.accept s v).2.marked? name = remark name v (t.marked? name) := by
  unfold marked?
  rw [get?_accept]
  cases v with
  | get key => rfl
  | patchFinalizers key fs =>
    dsimp only [effect, remark]
    by_cases hn : name = key
    · rw [if_pos hn]
      rcases t.objects.get? name with _ | o
      · simp
      · rw [Option.bind_some, isDeleting_withFinalizers]
        simp [hn]
    · rw [if_neg hn, if_neg fun h => hn h.1]
  | patchStatus key patch =>
    dsimp only [effect, remark]
    split
    · rcases t.objects.get? name with _ | o
      · rfl
      · obtain ⟨status, hstatus⟩ := repatched_eq s patch o
        rw [Option.map_some, Option.map_some, hstatus]
        rfl
    · rfl
  | apply o =>
    dsimp only [effect, remark]
    split
    · rw [Option.map_some, isDeleting_superseding]
    · rfl

/-- **What becomes of a mark.** -/
theorem marked?_next (v : Verb Spec Status) : (t.next s v).marked? name =
    if t.rejected.contains v.kind = true then t.marked? name else remark name v (t.marked? name) := by
  unfold next answer
  split
  · rfl
  · exact marked?_accept v

/-- A resource goes away with the last finalizer of one that is marked, and in no other way. -/
theorem remark_eq_none {v : Verb Spec Status} {mark : Option Bool} (hmark : mark ≠ none) :
    remark name v mark = none ↔ mark = some true ∧ v = .patchFinalizers name [] := by
  cases v with
  | get key => simp [remark, hmark]
  | patchStatus key patch => simp [remark, hmark]
  | apply o =>
    dsimp only [remark]
    split <;> simp [hmark]
  | patchFinalizers key fs =>
    dsimp only [remark]
    split
    · rename_i h
      obtain ⟨rfl, rfl, hmarked⟩ := h
      exact iff_of_true rfl ⟨hmarked, rfl⟩
    · rename_i h
      refine iff_of_false hmark ?_
      rintro ⟨hmarked, he⟩
      cases he
      exact h ⟨rfl, rfl, hmarked⟩

theorem marked?_next_eq_none {v : Verb Spec Status} (hmark : t.marked? name ≠ none) :
    (t.next s v).marked? name = none ↔ t.marked? name = some true ∧
      t.rejected.contains .patchFinalizers = false ∧ v = .patchFinalizers name [] := by
  rw [marked?_next]
  split
  · rename_i hr
    refine iff_of_false hmark ?_
    rintro ⟨-, haccepts, rfl⟩
    exact Bool.false_ne_true (haccepts.symm.trans hr)
  · rename_i hr
    rw [remark_eq_none hmark]
    refine and_congr_right fun _ => ⟨?_, fun h => h.2⟩
    rintro rfl
    exact ⟨Bool.not_eq_true _ ▸ hr, rfl⟩

theorem marked?_next_of_revives {v : Verb Spec Status} (h : Revives name t v) :
    (t.next s v).marked? name = some false := by
  obtain ⟨hr, o, rfl, hname, hdel⟩ := h
  rw [marked?_next, hr, if_neg Bool.false_ne_true, remark, if_pos hname, hdel]

theorem marked?_next_of_not_revives {v : Verb Spec Status} (h : ¬ Revives name t v)
    (hmarked : t.marked? name = some true) :
    (t.next s v).marked? name = some true ∨ (t.next s v).marked? name = none := by
  rw [marked?_next, hmarked]
  split
  · exact .inl rfl
  · rename_i hr
    cases v with
    | get key => exact .inl rfl
    | patchStatus key patch => exact .inl rfl
    | patchFinalizers key fs =>
      dsimp only [remark]
      split
      · exact .inr rfl
      · exact .inl rfl
    | apply o =>
      dsimp only [remark]
      split
      · rename_i hname
        rcases hdel : o.metadata.isDeleting with _ | _
        · exact absurd ⟨Bool.not_eq_true _ ▸ hr, o, rfl, hname, hdel⟩ h
        · exact .inl rfl
      · exact .inl rfl

end ObjectStore

namespace Controller

/-! ## Attempts -/

/-- What a question makes of the mark of an interface, given its answer. -/
def remarked (name : String) (mark : Option Bool) (a : Program.Asked Query.Answer) : Option Bool :=
  match accepted? a with
  | some v => ObjectStore.remark name v mark
  | none => mark

/-- A question that applies only resources that are not marked, and patches none. -/
def AppliesUnmarked (q : Query) : Prop :=
  ∀ v, q = .interfaces v → ∃ c, v = .apply c ∧ c.metadata.isDeleting = false

theorem remarked_of_appliesUnmarked {name : String} {mark : Option Bool}
    {a : Program.Asked Query.Answer} (h : AppliesUnmarked a.1) :
    remarked name mark a = if (declares name a).isSome = true then some false else mark := by
  rw [remarked, declares_eq]
  rcases ha : accepted? a with _ | v
  · rfl
  · obtain ⟨c, rfl, hc⟩ := h v (accepted?_inv ha)
    dsimp only [ObjectStore.remark, Option.bind_some, ObjectStore.declaredBy]
    rw [hc]
    split <;> rfl

theorem foldl_remarked {name : String} (mark : Option Bool)
    {asked : List (Program.Asked Query.Answer)} (h : ∀ a ∈ asked, AppliesUnmarked a.1) :
    asked.foldl (remarked name) mark = if declared name asked = [] then mark else some false := by
  induction asked generalizing mark with
  | nil => rfl
  | cons a asked ih =>
    obtain ⟨ha, hrest⟩ := List.forall_mem_cons.mp h
    rw [List.foldl_cons, ih _ hrest, remarked_of_appliesUnmarked ha]
    unfold declared
    rw [List.filterMap_cons]
    rcases declares name a with _ | x
    · rfl
    · exact ite_self _

namespace World

variable {σ : Type} (w : World σ) {s : σ} {name : String}

/-- Whether an interface is marked for deletion, if there is one. -/
def marked? (name : String) (s : σ) : Option Bool := (w.interfaces s).marked? name

theorem marked?_answer (q : Query) (s : σ) : w.marked? name (w.answer q s).2 =
    remarked name (w.marked? name s) ⟨q, (w.answer q s).1⟩ := by
  unfold marked? remarked
  rw [w.interfaces_accepted s q]
  rcases accepted? ⟨q, (w.answer q s).1⟩ with _ | v
  · rfl
  · exact ObjectStore.marked?_accept v

/-- **The mark after an attempt** follows from what was asked. -/
theorem marked?_after (s : σ) (turn : Turn) :
    w.marked? name (w.after s turn) = (w.asked s turn).foldl (remarked name) (w.marked? name s) :=
  Program.run_foldl (P := fun _ => True) (w.marked? name) (remarked name)
    (fun q s _ => w.marked?_answer q s) (.any _) s

theorem appliesUnmarked_of_mem {key : String} {a : Program.Asked Query.Answer}
    (ha : a ∈ w.asked s (.switch key)) : AppliesUnmarked a.1 := by
  intro v hv
  obtain ⟨o, switch, -, -, (hnow | ⟨v', -, hown⟩) | ⟨hinspects, hchildren⟩⟩ := w.mem_asked_switch s ha
  · cases hv.symm.trans hnow
  · cases hv.symm.trans hown
  · rw [hv] at hinspects
    obtain ⟨c, rfl, -⟩ := hinspects
    obtain ⟨address, is, -, i, -, hchild⟩ := hchildren c hv
    exact ⟨c, rfl, isDeleting_child hchild⟩

/-- **An attempt at a switch** takes the mark away exactly if it applies the interface. -/
theorem marked?_after_switch (s : σ) (key : String) :
    w.marked? name (w.after s (.switch key)) =
      if declared name (w.asked s (.switch key)) = [] then w.marked? name s else some false :=
  (w.marked?_after s _).trans (foldl_remarked _ fun _ ha => w.appliesUnmarked_of_mem ha)

theorem marked_or_gone_after_interface (s : σ) (key : String) (hs : w.marked? name s = some true) :
    w.marked? name (w.after s (.interface key)) = some true ∨
      w.marked? name (w.after s (.interface key)) = none := by
  rw [w.marked?_after]
  refine List.foldlRecOn (motive := fun mark => mark = some true ∨ mark = none) _ _ (.inl hs) ?_
  intro mark hmark a ha
  unfold remarked
  rcases haccepted : accepted? a with _ | v
  · exact hmark
  · cases v with
    | get n => exact hmark
    | patchStatus n patch => exact hmark
    | patchFinalizers n fs =>
      dsimp only [ObjectStore.remark]
      split
      · exact .inr rfl
      · exact hmark
    | apply c =>
      have hq := accepted?_inv haccepted
      obtain ⟨o, -, hpermitted | ⟨self, -, hroutine⟩⟩ := w.mem_asked_interface s ha
      · rw [hq] at hpermitted
        exact hpermitted.elim
      · rw [hq] at hroutine
        exact absurd hroutine not_routine_apply

/-- An interface that goes away in an attempt does so when its list of finalizers is emptied. -/
theorem emptied_of_gone {turn : Turn} (hs : w.marked? name s ≠ none)
    (hgone : w.marked? name (w.after s turn) = none) :
    ∃ a ∈ w.asked s turn, accepted? a = some (.patchFinalizers name []) := by
  rw [w.marked?_after] at hgone
  refine Classical.byContradiction fun hnot => absurd hgone ?_
  refine List.foldlRecOn (motive := fun mark => mark ≠ none) _ _ hs ?_
  intro mark hmark a ha
  unfold remarked
  rcases haccepted : accepted? a with _ | v
  · exact hmark
  · intro hnone
    obtain ⟨-, rfl⟩ := (ObjectStore.remark_eq_none hmark).mp hnone
    exact hnot ⟨a, ha, haccepted⟩

theorem marked?_after_of_declared {turn : Turn} (h : declared name (w.asked s turn) ≠ []) :
    w.marked? name (w.after s turn) = some false := by
  cases turn with
  | switch key => rw [w.marked?_after_switch, if_neg h]
  | interface key => exact absurd (w.declared_interface name s key) h

theorem marked?_after_of_not_declared {turn : Turn} (h : ¬ declared name (w.asked s turn) ≠ [])
    (hs : w.marked? name s = some true) :
    w.marked? name (w.after s turn) = some true ∨ w.marked? name (w.after s turn) = none := by
  cases turn with
  | switch key =>
    rw [w.marked?_after_switch, if_pos (Classical.not_not.mp h)]
    exact .inl hs
  | interface key => exact w.marked_or_gone_after_interface s key hs

/-- **Marks for deletion.** A resource of any kind that is marked for deletion stays so through any
sequence of verbs exactly if no other resource that is not marked is applied in its place while it is
still there. It goes away with its last finalizer and in no other way. An interface that is marked stays
so through any sequence of attempts exactly if no attempt applies it while it is still there, and it goes
away only when its list of finalizers is emptied. An attempt at a switch leaves each mark as it is, or
takes it away if it applies the interface. -/
theorem marked_until_gone (kept : Schema Spec Status) {t : ObjectStore Spec Status} {key : String}
    (ht : t.marked? key = some true) (hs : w.marked? name s = some true) :
    (∀ vs, StaysMarked (ObjectStore.next kept) (ObjectStore.marked? key) t vs ↔
      ∀ before v after, vs = before ++ v :: after →
        ObjectStore.Revives key (before.foldl (ObjectStore.next kept) t) v →
          Gone (ObjectStore.next kept) (ObjectStore.marked? key) t before) ∧
    (∀ (u : ObjectStore Spec Status) v, u.marked? key ≠ none →
      ((u.next kept v).marked? key = none ↔ u.marked? key = some true ∧
        u.rejected.contains .patchFinalizers = false ∧ v = .patchFinalizers key [])) ∧
    (∀ turns, StaysMarked w.after (w.marked? name) s turns ↔
      ∀ before turn after, turns = before ++ turn :: after →
        declared name (w.asked (w.afterAll s before) turn) ≠ [] →
          Gone w.after (w.marked? name) s before) ∧
    (∀ u turn, w.marked? name u ≠ none → w.marked? name (w.after u turn) = none →
      ∃ a ∈ w.asked u turn, accepted? a = some (.patchFinalizers name [])) ∧
    ∀ u switch, w.marked? name (w.after u (.switch switch)) =
      if declared name (w.asked u (.switch switch)) = [] then w.marked? name u else some false :=
  ⟨fun _ => staysMarked_iff (fun _ _ h => ObjectStore.marked?_next_of_revives h)
      (fun _ _ h => ObjectStore.marked?_next_of_not_revives h) ht,
    fun _ _ hu => ObjectStore.marked?_next_eq_none hu,
    fun _ => staysMarked_iff (fun _ _ h => w.marked?_after_of_declared h)
      (fun _ _ h => w.marked?_after_of_not_declared h) hs,
    fun _ _ hu hgone => w.emptied_of_gone hu hgone,
    fun u switch => w.marked?_after_switch u switch⟩

end World

/-! ## A mark that is lost -/

namespace Resources

/-- An interface that is to be deleted, and that is still held back. -/
def deleted : SwitchInterface :=
  { unwanted with metadata := { unwanted.metadata with deletionTimestamp := some ⟨0, false⟩ } }

/-- The interface with its switch. -/
def ofDeleted : Resources :=
  ⟨ObjectStore.empty.insert "leaf" Cluster.readySwitch,
    ObjectStore.empty.insert "leaf-ethernet0" deleted⟩

/-- Other finalizers, and then none. -/
def releases : List (Verb SwitchInterfaceSpec SwitchInterfaceStatus) :=
  [.patchFinalizers "leaf-ethernet0" [Group.finalizer, "other"], .patchFinalizers "leaf-ethernet0" []]

/-- The general theorem at verbs that apply nothing, and at an attempt at the interface with one at its
switch after it: the interface is applied when it is gone. -/
theorem marked_until_replaced :
    ofDeleted.interfaces.marked? "leaf-ethernet0" = some true ∧
      StaysMarked (ObjectStore.next SwitchInterface.schema) (ObjectStore.marked? "leaf-ethernet0")
        ofDeleted.interfaces releases ∧
      StaysMarked (world lit).after ((world lit).marked? "leaf-ethernet0") ofDeleted
        [.interface "leaf-ethernet0", .switch "leaf"] ∧
      (world lit).marked? "leaf-ethernet0" ((world lit).afterAll ofDeleted
        [.interface "leaf-ethernet0", .switch "leaf"]) = some false := by
  obtain ⟨hverbs, -, hturns, -, -⟩ := @World.marked_until_gone _ _ _ (world lit) ofDeleted
    "leaf-ethernet0" SwitchInterface.schema ofDeleted.interfaces "leaf-ethernet0" rfl rfl
  refine ⟨rfl, (hverbs _).mpr ?_, (hturns _).mpr ?_, rfl⟩
  · rintro before v after hvs ⟨-, o, rfl, -⟩
    have hmem : .apply o ∈ releases := by rw [hvs]; simp
    simp [releases] at hmem
  · intro before turn after hsplit hdeclared
    rcases List.cons_eq_append_iff.mp hsplit with ⟨rfl, h⟩ | ⟨before, rfl, -⟩
    · obtain ⟨rfl, -⟩ := List.cons.inj h
      exact absurd ((world lit).declared_interface _ _ _) hdeclared
    · exact ⟨[.interface "leaf-ethernet0"], ⟨before, rfl⟩, rfl⟩

/-- The interface as its switch wants it. -/
def wanted : SwitchInterface where
  metadata := Metadata.named "leaf-ethernet0"
  spec := ⟨"Ethernet0", some ⟨"leaf"⟩, .up⟩
  status := none

/-- **A mark that is lost.** The interface that is to be deleted is applied, by itself or in an attempt at
its switch. It was there all the time, and it is not marked any more. -/
theorem mark_lost :
    ofDeleted.interfaces.marked? "leaf-ethernet0" = some true ∧
      (ofDeleted.interfaces.next SwitchInterface.schema (.apply wanted)).marked? "leaf-ethernet0" =
        some false ∧
      (world lit).marked? "leaf-ethernet0" ((world lit).after ofDeleted (.switch "leaf")) =
        some false ∧
      ¬ StaysMarked (ObjectStore.next SwitchInterface.schema) (ObjectStore.marked? "leaf-ethernet0")
        ofDeleted.interfaces [.apply wanted] ∧
      ¬ StaysMarked (world lit).after ((world lit).marked? "leaf-ethernet0") ofDeleted
        [.switch "leaf"] :=
  ⟨rfl, rfl, rfl, not_staysMarked rfl rfl, not_staysMarked rfl rfl⟩

end Resources

end Controller

end SwitchFleet
