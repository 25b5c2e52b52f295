import SwitchFleet.Proofs.Controller.Naming
import SwitchFleet.Proofs.Controller.Persistence

/-!
# Resources for the interfaces of switches

An attempt at a switch applies one resource for each interface of its device, under a name that is made
of the name of the switch and the handle of the interface.

* **`childName_eq_iff`**: when two interfaces give the same name.
* `IsChild`: the resource for an interface of a switch. `Occupied`: the resource with a name is one for
  an interface.
* `World.MakesReady`: an attempt that makes a switch ready. `World.completed_of_makesReady`: it applied a
  resource for each interface.
* **`World.owned_iff`**: after all switches were made ready in any order, each interface has a resource of
  its own exactly if all names are different. `handle_lost`: two interfaces of one switch with one name.
-/

namespace SwitchFleet

/-! ## Names -/

namespace Controller

variable {switch handle switch' handle' : String}

/-- The name of the second switch is that of the first one, a dash and a text with which, and a dash, the
handle of the first one begins. The rest of that handle is the handle of the second one. -/
def Overlaps (switch handle switch' handle' : String) : Prop :=
  ∃ t, switch' = switch ++ "-" ++ t ∧ Text.lower handle = t ++ "-" ++ Text.lower handle'

/-- Lists with a separator are equal if they are so on both sides, or if one separator stands in the first
part of the other list. -/
theorem append_cons_eq_iff {α : Type} (x : α) (a b c d : List α) :
    a ++ x :: b = c ++ x :: d ↔ a = c ∧ b = d ∨ (∃ t, c = a ++ x :: t ∧ b = t ++ x :: d) ∨
      ∃ t, a = c ++ x :: t ∧ d = t ++ x :: b := by
  constructor
  · intro h
    rcases List.append_eq_append_iff.mp h with ⟨t, hc, hb⟩ | ⟨t, ha, hd⟩
    · cases t with
      | nil => exact .inl ⟨by simpa using hc.symm, (List.cons.inj hb).2⟩
      | cons y t =>
        obtain ⟨hy, hrest⟩ := List.cons.inj hb
        exact .inr (.inl ⟨t, hy ▸ hc, hrest⟩)
    · cases t with
      | nil => exact .inl ⟨by simpa using ha, (List.cons.inj hd).2.symm⟩
      | cons y t =>
        obtain ⟨hy, hrest⟩ := List.cons.inj hd
        exact .inr (.inr ⟨t, hy ▸ ha, hrest⟩)
  · rintro (⟨rfl, rfl⟩ | ⟨t, rfl, rfl⟩ | ⟨t, rfl, rfl⟩)
    · rfl
    · simp
    · simp

theorem append_dash_eq_iff (a b c d : String) :
    a ++ "-" ++ b = c ++ "-" ++ d ↔
      a = c ∧ b = d ∨ (∃ t, c = a ++ "-" ++ t ∧ b = t ++ "-" ++ d) ∨
        ∃ t, a = c ++ "-" ++ t ∧ d = t ++ "-" ++ b := by
  have hlists (a b c d : String) : a ++ "-" ++ b = c ++ "-" ++ d ↔
      a.toList ++ '-' :: b.toList = c.toList ++ '-' :: d.toList := by
    rw [← String.toList_inj]
    simp
  have htext (P : List Char → Prop) : (∃ t, P t) ↔ ∃ t : String, P t.toList :=
    ⟨fun ⟨t, ht⟩ => ⟨String.ofList t, by rwa [String.toList_ofList]⟩, fun ⟨t, ht⟩ => ⟨_, ht⟩⟩
  rw [hlists, append_cons_eq_iff, htext, htext]
  simp [← String.toList_inj]

/-- **Names of interfaces.** Two interfaces give the same name exactly if they are of one switch and their
handles are the same in lower case, or if the name of one switch takes up a part of the handle of the
other one. -/
theorem childName_eq_iff : childName switch handle = childName switch' handle' ↔
    switch = switch' ∧ Text.lower handle = Text.lower handle' ∨
      Overlaps switch handle switch' handle' ∨ Overlaps switch' handle' switch handle :=
  append_dash_eq_iff ..

end Controller

/-! ## Resources that stay -/

namespace ObjectStore

variable {Spec Status : Type} {s : Schema Spec Status} {t : ObjectStore Spec Status} {key : String}
  {o : Object Spec Status}

theorem get?_accept_of_live (hget : t.objects.get? key = some o) (hlive : o.metadata.isDeleting = false)
    (v : Verb Spec Status) : ∃ p, (t.accept s v).2.objects.get? key = some p ∧
      ((∃ finalizers status, p = { o with metadata := { o.metadata with finalizers }, status }) ∨
        ∃ new, v = .apply new ∧ new.metadata.name = some key ∧ p = replacing o new) := by
  rw [get?_accept, hget]
  have hkept : ∃ p, some o = some p ∧
      ((∃ finalizers status, p = { o with metadata := { o.metadata with finalizers }, status }) ∨
        ∃ new, v = .apply new ∧ new.metadata.name = some key ∧ p = replacing o new) :=
    ⟨o, rfl, .inl ⟨o.metadata.finalizers, o.status, rfl⟩⟩
  cases v with
  | get n => exact hkept
  | patchFinalizers n fs =>
    dsimp only [effect]
    split
    · rcases hp : o.withFinalizers fs with _ | p
      · obtain ⟨-, hdel⟩ := Object.withFinalizers_eq_none.mp hp
        cases hlive.symm.trans hdel
      · exact ⟨p, hp, .inl ⟨_, o.status, (Object.relisted_of_withFinalizers hp).eq⟩⟩
    · exact hkept
  | patchStatus n patch =>
    dsimp only [effect]
    split
    · obtain ⟨status, hstatus⟩ := repatched_eq s patch o
      exact ⟨_, congrArg some hstatus, .inl ⟨o.metadata.finalizers, status, rfl⟩⟩
    · exact hkept
  | apply new =>
    dsimp only [effect]
    split
    · rename_i hname
      exact ⟨replacing o new, rfl, .inr ⟨new, rfl, hname, rfl⟩⟩
    · exact hkept

end ObjectStore

namespace Controller

/-! ## Resources for interfaces -/

/-- The resource for an interface of a switch: it has the handle of the interface, and the switch as its
reference, its label and its owner. -/
structure IsChild (c : SwitchInterface) (switch handle : String) : Prop where
  name_eq : c.metadata.name = some (childName switch handle)
  live : c.metadata.isDeleting = false
  handle_eq : c.spec.handle = handle
  switchRef_eq : c.spec.switchRef = some ⟨switch⟩
  labels_eq : c.metadata.labels = some [(Group.switchLabel, switch)]
  owned : ∃ uid, c.metadata.ownerReferences =
    some [⟨Group.apiVersion, none, some true, Switch.schema.kind, switch, uid⟩]

namespace IsChild

variable {c : SwitchInterface}

theorem patched (h : IsChild c switch handle) (finalizers : Option (List String))
    (status : Option SwitchInterfaceStatus) :
    IsChild { c with metadata := { c.metadata with finalizers }, status } switch handle :=
  ⟨h.name_eq, h.live, h.handle_eq, h.switchRef_eq, h.labels_eq, h.owned⟩

theorem replacing (h : IsChild c switch handle) (old : SwitchInterface) :
    IsChild (ObjectStore.replacing old c) switch handle :=
  ⟨h.name_eq, h.live, h.handle_eq, h.switchRef_eq, h.labels_eq, h.owned⟩

theorem unique (h : IsChild c switch handle) (h' : IsChild c switch' handle') :
    switch = switch' ∧ handle = handle' := by
  have hname := Option.some.inj (h.switchRef_eq.symm.trans h'.switchRef_eq)
  exact ⟨congrArg LocalReference.name hname, h.handle_eq.symm.trans h'.handle_eq⟩

end IsChild

theorem isChild_child {o : Switch} {i : Interface} {c : SwitchInterface}
    (hname : o.metadata.name = some switch) (h : child o switch i = .ok c) : IsChild c switch i.name := by
  obtain ⟨owner, howner, rfl⟩ := child_ok_inv h
  refine ⟨rfl, rfl, rfl, rfl, rfl, ?_⟩
  unfold ownerReference? at howner
  rw [hname] at howner
  rcases huid : o.metadata.uid with _ | uid
  · rw [huid] at howner
    cases howner
  · rw [huid] at howner
    cases howner
    exact ⟨uid, rfl⟩

/-- The resource with a name is one for an interface that `P` holds of. -/
def Occupied (P : String → String → Prop) (name : String)
    (t : ObjectStore SwitchInterfaceSpec SwitchInterfaceStatus) : Prop :=
  ∃ c switch handle, t.objects.get? name = some c ∧ P switch handle ∧
    childName switch handle = name ∧ IsChild c switch handle

/-- A question that applies resources for interfaces that `P` holds of, if any. -/
def Declares (P : String → String → Prop) (q : Query) : Prop :=
  ∀ c, q = .interfaces (.apply c) → ∃ switch handle, P switch handle ∧ IsChild c switch handle

section

variable {P : String → String → Prop} {name : String}
  {t : ObjectStore SwitchInterfaceSpec SwitchInterfaceStatus}
  {s : Schema SwitchInterfaceSpec SwitchInterfaceStatus}

theorem Occupied.accept (h : Occupied P name t) {v : Verb SwitchInterfaceSpec SwitchInterfaceStatus}
    (hv : Declares P (.interfaces v)) : Occupied P name (t.accept s v).2 := by
  obtain ⟨c, switch, handle, hget, hP, hname, hc⟩ := h
  obtain ⟨p, hp, ⟨finalizers, status, rfl⟩ | ⟨new, rfl, hnew, rfl⟩⟩ :=
    ObjectStore.get?_accept_of_live (s := s) hget hc.live v
  · exact ⟨_, switch, handle, hp, hP, hname, hc.patched finalizers status⟩
  · obtain ⟨switch', handle', hP', hc'⟩ := hv new rfl
    have hname' : childName switch' handle' = name := Option.some.inj (hc'.name_eq.symm.trans hnew)
    exact ⟨_, switch', handle', hp, hP', hname', hc'.replacing c⟩

theorem occupied_apply {c : SwitchInterface} (hP : P switch handle) (hc : IsChild c switch handle) :
    Occupied P (childName switch handle) (t.accept s (.apply c)).2 := by
  have hstored : (t.accept s (.apply c)).2.objects.get? (childName switch handle) =
      some (ObjectStore.superseding (t.objects.get? (childName switch handle)) c) :=
    (ObjectStore.get?_accept ..).trans (if_pos hc.name_eq)
  refine ⟨_, switch, handle, hstored, hP, rfl, ?_⟩
  rcases t.objects.get? (childName switch handle) with _ | old
  · exact hc
  · exact hc.replacing old

end

/-! ## Resources that are applied in an attempt -/

namespace World

variable {σ : Type} (w : World σ) {s : σ} {P : String → String → Prop} {name key : String}

theorem occupied_answer {q : Query} (hq : Declares P q) (h : Occupied P name (w.interfaces s)) :
    Occupied P name (w.interfaces (w.answer q s).2) := by
  rcases w.keepsInterfaces.store_answer managed_interfaceKind.sends q s with hstore | ⟨v, rfl, hstore⟩
  · rwa [hstore]
  · rw [hstore]
    exact h.accept hq

theorem occupied_answer_apply {c : SwitchInterface} (hr : (w.answer (.interfaces (.apply c)) s).1 = .ok ())
    (hP : P switch handle) (hc : IsChild c switch handle) :
    Occupied P (childName switch handle) (w.interfaces (w.answer (.interfaces (.apply c)) s).2) := by
  rw [w.interfaces_accepted s, hr]
  exact occupied_apply hP hc

/-- A resource that was applied during an attempt occupies its name after the attempt. -/
theorem occupied_of_applied {turn : Turn} {c : SwitchInterface}
    (hasked : ∀ a ∈ w.asked s turn, Declares P a.1) (happlied : applied c ∈ w.asked s turn)
    (hP : P switch handle) (hc : IsChild c switch handle) :
    Occupied P (childName switch handle) (w.interfaces (w.after s turn)) := by
  obtain ⟨s₁, hv, hr⟩ := Program.visited_of_mem_trace happlied
  exact w.after_of_visited (fun s => Occupied P (childName switch handle) (w.interfaces s))
    (fun _ _ hq h => w.occupied_answer hq h) hasked hv (w.occupied_answer_apply hr hP hc)

theorem occupied_after {turn : Turn} (hasked : ∀ a ∈ w.asked s turn, Declares P a.1)
    (h : Occupied P name (w.interfaces s)) : Occupied P name (w.interfaces (w.after s turn)) :=
  w.after_preserves (fun s => Occupied P name (w.interfaces s))
    (fun _ _ hq h => w.occupied_answer hq h) hasked h

/-! ## Attempts that make a switch ready -/

variable (s key) in
/-- An attempt makes a switch ready: the switch is not being deleted, and the attempt ends with nothing
left to do. -/
def MakesReady : Prop :=
  ∃ o, (w.switches s).objects.get? key = some o ∧ o.metadata.isDeleting = false ∧
    ((w.task s (.switch key)).run.run w.answer s).1 = .ok .awaitChange

end World

/-- An attempt at a resource that is not being deleted leaves nothing to do only after a comparison. -/
theorem Kind.compare_of_awaits {Spec Status σ : Type} {k : Kind Spec Status}
    {own : Verb Spec Status → Query} {answer : (q : Query) → σ → q.Answer × σ}
    {observe : Object Spec Status → String → Observation Status Action} {o : Object Spec Status}
    {name : String} {s s' : σ} {asked : List (Program.Asked Query.Answer)} (hsend : k.Sends own)
    (hname : o.metadata.name = some name) (hlive : o.metadata.isDeleting = false)
    (h : Program.Runs answer (k.reconcile observe o) s (.ok .awaitChange) s' asked) :
    Program.Runs answer (k.compare (observe o name) name o) s (.ok .awaitChange) s' asked := by
  rw [reconcile_eq hname, hlive, if_neg Bool.false_ne_true] at h
  by_cases hown : Group.finalizer ∈ o.metadata.finalizerList
  · rw [ensure_of_iff hname (iff_of_true hown rfl)] at h
    exact h
  · obtain ⟨added, s₁, t₁, t₂, hx, hf⟩ := h.bind_ok_inv
    rcases ensure_asked hsend hname hx with ⟨hiff, -⟩ | ⟨-, reply, -, hadded, -⟩
    · exact absurd (hiff.mpr rfl) hown
    · have hadded : added = true := by
        rcases reply with e | ⟨⟩ <;> cases hadded
        rfl
      rw [if_pos hadded] at hf
      obtain ⟨hr, -, -⟩ := hf.pure_inv
      cases hr

namespace World

variable {σ : Type} (w : World σ) {s : σ} {key : String}

/-- **Attempts that make a switch ready** are complete, and the switch is stored as ready. -/
theorem completed_of_makesReady (hn : (w.switches s).Named) (h : w.MakesReady s key) :
    ∃ o, (w.switches s).objects.get? key = some o ∧ o.metadata.name = some key ∧
      Completed o key (w.asked s (.switch key)) ∧
      ∃ status, (w.switches (w.after s (.switch key))).objects.get? key =
        some { o with status := some status } ∧ status.state = some .ready := by
  obtain ⟨o, hget, hlive, hr⟩ := h
  have hname := hn key o hget
  have hruns : Program.Runs w.answer (reconcileSwitch o) s (.ok .awaitChange)
      (w.after s (.switch key)) (w.asked s (.switch key)) := by
    rw [after, asked, task_switch hget]
    rw [task_switch hget] at hr
    exact ⟨Prod.ext hr rfl, rfl⟩
  obtain ⟨outcome, status, s₁, t₁, written, t₂, hobs, -, hsettled, hasked, hstored⟩ :=
    managed_switchKind.compare_inv w.keepsSwitches hget
      (Kind.compare_of_awaits managed_switchKind.sends hname hlive hruns)
  rcases hstored with ⟨rfl, hstored⟩ | ⟨e, rfl, -⟩
  · rw [settle_ok] at hsettled
    -- no error of a switch is lasting, so the comparison itself left nothing to do
    have houtcome : outcome = .ok .awaitChange := by
      rcases outcome with e | action <;> exact hsettled.symm
    subst houtcome
    rcases hseen : switchKind.state (o.status.getD switchKind.empty) with _ | state
    · obtain ⟨hwait, -⟩ := Kind.sinceSeen_inv hseen hobs
      cases hwait
    · have hseen : (switchKind.state (o.status.getD switchKind.empty)).isSome = true := by rw [hseen]; rfl
      rcases (exit_observeSwitch ((Kind.observes_sinceSeen hseen).mp hobs)).state_eq with
        ⟨-, hstate, hcompleted⟩ | ⟨e, he, -⟩
      · refine ⟨o, hget, hname, hcompleted.mono fun a ha _ => ?_, _, hstored, ?_⟩
        · rw [hasked]
          exact List.mem_append_left _ ha
        · exact (lenses_switchKind.state_judge ..).trans hstate
      · cases he
  · rw [settle_error] at hsettled
    cases hsettled

/-! ## Sequences of attempts -/

/-- Whenever an attempt at a switch is told the interfaces of its device, they have these handles. -/
def Reports (s : σ) (turns : List Turn) (handles : String → List String) : Prop :=
  ∀ before switch after, turns = before ++ .switch switch :: after →
    ∀ address, ∀ is : List Interface,
      ⟨.call address .interfaces, .ok is⟩ ∈ w.asked (w.afterAll s before) (.switch switch) →
        is.map (·.name) = handles switch

/-- An interface of a switch that is attempted. -/
def Listed (turns : List Turn) (handles : String → List String) (switch handle : String) : Prop :=
  .switch switch ∈ turns ∧ handle ∈ handles switch

/-- The resource for an interface is there, under the name that is made for it. -/
def Owned (s : σ) (switch handle : String) : Prop :=
  ∃ c, (w.interfaces s).objects.get? (childName switch handle) = some c ∧ IsChild c switch handle

variable {turns : List Turn} {handles : String → List String}

theorem afterAll_append (before after : List Turn) :
    w.afterAll s (before ++ after) = w.afterAll (w.afterAll s before) after :=
  List.foldl_append

theorem named_afterAll (hn : (w.switches s).Named) (turns : List Turn) :
    (w.switches (w.afterAll s turns)).Named :=
  w.afterAll_preserves (fun s => (w.switches s).Named) (fun turn _ _ h => w.named_switches h turn) hn

theorem declares_of_reports (hn : (w.switches s).Named) (hreports : w.Reports s turns handles)
    {before after : List Turn} {turn : Turn} (hturns : turns = before ++ turn :: after) :
    ∀ a ∈ w.asked (w.afterAll s before) turn, Declares (Listed turns handles) a.1 := by
  intro a ha c hc
  cases turn with
  | interface key =>
    obtain ⟨o, -, hpermitted | ⟨self, -, hroutine⟩⟩ := w.mem_asked_interface _ ha
    · rw [hc] at hpermitted
      exact hpermitted.elim
    · rw [hc] at hroutine
      exact (not_routine_apply hroutine).elim
  | switch key =>
    obtain ⟨o, switch, hget, hswitch, (hnow | ⟨v, -, hown⟩) | ⟨-, hchildren⟩⟩ := w.mem_asked_switch _ ha
    · cases hc.symm.trans hnow
    · cases hc.symm.trans hown
    · obtain ⟨address, is, hlisted, i, hi, hchild⟩ := hchildren c hc
      have hkey := w.named_afterAll hn before key o hget
      obtain rfl : key = switch := Option.some.inj (hkey.symm.trans hswitch)
      have hhandle : i.name ∈ handles key := by
        rw [← hreports before key after hturns address is hlisted]
        exact List.mem_map_of_mem hi
      have hmem : Turn.switch key ∈ turns := by
        rw [hturns]
        exact List.mem_append_right _ List.mem_cons_self
      exact ⟨key, i.name, ⟨hmem, hhandle⟩, isChild_child hswitch hchild⟩

theorem occupied_afterAll {P : String → String → Prop} {name : String} (before after : List Turn)
    (hasked : ∀ before' turn after', before ++ after = before' ++ turn :: after' →
      ∀ a ∈ w.asked (w.afterAll s before') turn, Declares P a.1)
    (h : Occupied P name (w.interfaces (w.afterAll s before))) :
    Occupied P name (w.interfaces (w.afterAll s (before ++ after))) := by
  induction after generalizing before with
  | nil => rwa [List.append_nil]
  | cons turn after ih =>
    have hsplit : before ++ turn :: after = (before ++ [turn]) ++ after := by simp
    rw [hsplit]
    refine ih (before ++ [turn]) (fun before' turn' after' h' => ?_) ?_
    · exact hasked before' turn' after' (hsplit.trans h')
    · rw [w.afterAll_append]
      exact w.occupied_after (hasked before turn after rfl) h

theorem occupied_of_ready (hn : (w.switches s).Named) (hreports : w.Reports s turns handles)
    (hready : ∀ switch, .switch switch ∈ turns → ∃ before after,
      turns = before ++ .switch switch :: after ∧ w.MakesReady (w.afterAll s before) switch)
    (hlisted : Listed turns handles switch handle) :
    Occupied (Listed turns handles) (childName switch handle) (w.interfaces (w.afterAll s turns)) := by
  obtain ⟨before, after, hturns, hmakes⟩ := hready switch hlisted.1
  have hasked := w.declares_of_reports hn hreports hturns
  obtain ⟨o, hget, hname, hcompleted, -⟩ :=
    w.completed_of_makesReady (w.named_afterAll hn before) hmakes
  obtain ⟨address, is, hreport, hchildren⟩ := hcompleted.children
  obtain ⟨i, hi, rfl⟩ : ∃ i ∈ is, i.name = handle := by
    have hhandle := hlisted.2
    rw [← hreports before switch after hturns address is hreport] at hhandle
    exact List.mem_map.mp hhandle
  obtain ⟨c, hchild, happlied⟩ := hchildren i hi
  have hoccupied := w.occupied_of_applied hasked happlied hlisted (isChild_child hname hchild)
  have hsplit : turns = (before ++ [.switch switch]) ++ after := by rw [hturns]; simp
  have hstart : Occupied (Listed turns handles) (childName switch i.name)
      (w.interfaces (w.afterAll s (before ++ [.switch switch]))) := by
    rw [w.afterAll_append]
    exact hoccupied
  rw [hsplit] at hreports hstart ⊢
  refine w.occupied_afterAll (before ++ [.switch switch]) after (fun before' turn' after' h' => ?_) hstart
  exact w.declares_of_reports hn hreports h'

/-- **Interfaces with a resource of their own.** All switches that are attempted were made ready, in any
order and with attempts at interfaces in between. Then the name of each interface of theirs is that of a
resource for an interface with this name, which has the handle of that interface and its switch. Each
interface has a resource of its own exactly if no two of them give the same name. -/
theorem owned_iff (hn : (w.switches s).Named) (hreports : w.Reports s turns handles)
    (hready : ∀ switch, .switch switch ∈ turns → ∃ before after,
      turns = before ++ .switch switch :: after ∧ w.MakesReady (w.afterAll s before) switch) :
    (∀ switch handle, Listed turns handles switch handle →
      Occupied (Listed turns handles) (childName switch handle) (w.interfaces (w.afterAll s turns))) ∧
    ((∀ switch handle, Listed turns handles switch handle →
        w.Owned (w.afterAll s turns) switch handle) ↔
      ∀ switch handle switch' handle', Listed turns handles switch handle →
        Listed turns handles switch' handle' → childName switch handle = childName switch' handle' →
          switch = switch' ∧ handle = handle') ∧
    ∀ switch handle switch' handle', childName switch handle = childName switch' handle' ↔
      switch = switch' ∧ Text.lower handle = Text.lower handle' ∨
        Overlaps switch handle switch' handle' ∨ Overlaps switch' handle' switch handle := by
  have hoccupied (switch handle) (hlisted : Listed turns handles switch handle) :=
    w.occupied_of_ready hn hreports hready hlisted
  refine ⟨hoccupied, ⟨fun howned switch handle switch' handle' hl hl' hname => ?_,
    fun hdistinct switch handle hl => ?_⟩, fun _ _ _ _ => childName_eq_iff⟩
  · obtain ⟨c, hget, hc⟩ := howned switch handle hl
    obtain ⟨c', hget', hc'⟩ := howned switch' handle' hl'
    rw [hname, hget'] at hget
    cases hget
    exact hc.unique hc'
  · obtain ⟨c, switch', handle', hget, hl', hname, hc⟩ := hoccupied switch handle hl
    obtain ⟨rfl, rfl⟩ := hdistinct switch' handle' switch handle hl' hl hname
    exact ⟨c, hget, hc⟩

end World

/-! ## Two switches, and two interfaces with one name -/

namespace Resources

variable {others : (q : Query) → q.Answer}

theorem reports_of_constant {handles : List String}
    (h : ∀ address, ∃ is, others (.call address .interfaces) = .ok is ∧ is.map (·.name) = handles)
    (s : Resources) (turns : List Turn) : (world others).Reports s turns fun _ => handles := by
  intro before switch after _ address listed hlisted
  obtain ⟨_, -, hr⟩ := Program.visited_of_mem_trace hlisted
  obtain ⟨is, his, hhandles⟩ := h address
  cases his.symm.trans hr
  exact hhandles

/-- A second switch that was ready. -/
def spineSwitch : Switch :=
  { Cluster.readySwitch with metadata := { Cluster.readySwitch.metadata with name := some "spine" } }

/-- Two switches, without interfaces yet. -/
def ofPair : Resources :=
  ⟨(ObjectStore.empty.insert "leaf" Cluster.readySwitch).insert "spine" spineSwitch, ObjectStore.empty⟩

theorem named_ofPair : ofPair.switches.Named := by
  have hempty : (ObjectStore.empty : ObjectStore SwitchSpec SwitchStatus).Named := fun _ _ hget => by
    cases hget
  exact (hempty.insert rfl).insert rfl

/-- Attempts at both switches, and at an interface. -/
def pairTurns : List Turn := [.switch "leaf", .switch "spine", .interface "leaf-ethernet0"]

/-- The general theorem at two switches, each with an interface of the same handle: both interfaces have
a resource of their own. -/
theorem pair_owned : ofPair.switches.Named ∧
    (world lit).Reports ofPair pairTurns (fun _ => ["Ethernet0"]) ∧
    (world lit).Owned ((world lit).afterAll ofPair pairTurns) "leaf" "Ethernet0" ∧
    (world lit).Owned ((world lit).afterAll ofPair pairTurns) "spine" "Ethernet0" := by
  have hreports : (world lit).Reports ofPair pairTurns (fun _ => ["Ethernet0"]) :=
    reports_of_constant (by exact fun _ => ⟨_, rfl, rfl⟩) ofPair pairTurns
  have hready : ∀ switch, .switch switch ∈ pairTurns → ∃ before after,
      pairTurns = before ++ .switch switch :: after ∧
        (world lit).MakesReady ((world lit).afterAll ofPair before) switch := by
    intro switch hmem
    simp only [pairTurns, List.mem_cons, Turn.switch.injEq, reduceCtorEq, List.not_mem_nil, or_false] at hmem
    rcases hmem with rfl | rfl
    · exact ⟨[], _, rfl, Cluster.readySwitch, rfl, rfl, rfl⟩
    · exact ⟨[.switch "leaf"], _, rfl, spineSwitch, rfl, rfl, rfl⟩
  have hn : ((world lit).switches ofPair).Named := named_ofPair
  obtain ⟨-, hiff, -⟩ := (world lit).owned_iff hn hreports hready
  have howned := hiff.mpr fun switch handle switch' handle' hl hl' hname => by
    obtain rfl := List.mem_singleton.mp hl.2
    obtain rfl := List.mem_singleton.mp hl'.2
    have hswitch : switch = switch' := by simpa [childName] using hname
    exact ⟨hswitch, rfl⟩
  exact ⟨named_ofPair, hreports, howned "leaf" "Ethernet0" ⟨by simp [pairTurns], by simp⟩,
    howned "spine" "Ethernet0" ⟨by simp [pairTurns], by simp⟩⟩

/-- An agent with two interfaces whose handles differ in their case only. -/
def twins : (q : Query) → q.Answer
  | .call _ .interfaces => .ok [⟨"Ethernet0", "aa:bb:cc:00:00:00", .up, .up⟩,
      ⟨"ethernet0", "aa:bb:cc:00:00:02", .up, .up⟩]
  | q => lit q

/-- A switch without interfaces yet. -/
def ofLeaf : Resources := ⟨ObjectStore.empty.insert "leaf" Cluster.readySwitch, ObjectStore.empty⟩

/-- **An interface without a resource.** Two interfaces of a switch give the same name. After the switch
was made ready, there is one resource, which is for the second one. Two switches may also give the same
name. -/
theorem handle_lost :
    (world twins).Reports ofLeaf [.switch "leaf"] (fun _ => ["Ethernet0", "ethernet0"]) ∧
      (world twins).MakesReady ofLeaf "leaf" ∧
      (((world twins).afterAll ofLeaf [.switch "leaf"]).interfaces.objects.map
        fun e => (e.1, e.2.spec.handle)) = [("leaf-ethernet0", "ethernet0")] ∧
      childName "leaf" "Ethernet0" = childName "leaf" "ethernet0" ∧
      childName "leaf" "1-Ethernet0" = childName "leaf-1" "Ethernet0" :=
  ⟨reports_of_constant (by exact fun _ => ⟨_, rfl, rfl⟩) ofLeaf _,
    ⟨Cluster.readySwitch, rfl, rfl, rfl⟩, rfl, by decide, by decide⟩

end Resources

end Controller

end SwitchFleet
