import SwitchFleet.Proofs.Controller.Desired

/-!
# Names of stored resources

* `ObjectStore.forall_accept`: what holds of every resource, after a verb.
* `ObjectStore.Named`: every resource is stored under its own name. No verb changes this.
* `Kind.Keeps.store_answer`: what a question does to the resources of a kind.
* `World.visited`: the questions of an attempt with the worlds that they were asked in.
  `World.visited_preserves`, `World.after_preserves`: what these questions preserve holds there, and at
  the end. `World.after_of_visited`: so does what one of them brings about.
* `World.named_switches`, `World.named_interfaces`: names are preserved.
-/

namespace SwitchFleet

variable {Spec Status : Type}

namespace ObjectStore

variable {s : Schema Spec Status} {t : ObjectStore Spec Status} {name key : String}
  {o : Object Spec Status}

theorem get?_accept_of_patches {v : Verb Spec Status} (hv : v.Patches name) (hne : key ≠ name) :
    (t.accept s v).2.objects.get? key = t.objects.get? key := by
  rw [get?_accept]
  cases v with
  | get _ => exact hv.elim
  | apply _ => exact hv.elim
  | patchFinalizers n fs =>
    obtain rfl : n = name := hv
    exact if_neg hne
  | patchStatus n patch =>
    obtain rfl : n = name := hv
    exact if_neg hne

/-- Every resource is stored under its own name. -/
def Named (t : ObjectStore Spec Status) : Prop :=
  ∀ key o, t.objects.get? key = some o → o.metadata.name = some key

theorem Named.insert (h : t.Named) (hname : o.metadata.name = some name) :
    (t.insert name o).Named := by
  intro key p hp
  rw [get?_insert] at hp
  split at hp
  · rename_i hkey
    cases hp
    rw [hkey, hname]
  · exact h key p hp

theorem forall_accept {P : String → Object Spec Status → Prop} {v : Verb Spec Status}
    (hstatus : ∀ key o status, P key o → P key { o with status })
    (hfinalizers : ∀ key o finalizers, P key o →
      P key { o with metadata := { o.metadata with finalizers } })
    (happly : ∀ o key, v = .apply o → o.name = .ok key → P key o ∧ ∀ old, P key (replacing old o))
    (h : ∀ key o, t.objects.get? key = some o → P key o) :
    ∀ key o, (t.accept s v).2.objects.get? key = some o → P key o := by
  intro key p hp
  rw [get?_accept] at hp
  cases v with
  | get n => exact h key p hp
  | patchFinalizers n fs =>
    dsimp only [effect] at hp
    split at hp
    · obtain ⟨o, ho, hp⟩ := Option.bind_eq_some_iff.mp hp
      rw [(Object.relisted_of_withFinalizers hp).eq]
      exact hfinalizers key o _ (h key o ho)
    · exact h key p hp
  | patchStatus n patch =>
    dsimp only [effect] at hp
    split at hp
    · obtain ⟨o, ho, rfl⟩ := Option.map_eq_some_iff.mp hp
      obtain ⟨status, hstatus'⟩ := repatched_eq s patch o
      rw [hstatus']
      exact hstatus key o status (h key o ho)
    · exact h key p hp
  | apply o =>
    dsimp only [effect] at hp
    split at hp
    · rename_i hname
      cases hp
      obtain ⟨hnew, hold⟩ := happly o key rfl (by rw [Object.name, hname])
      rcases t.objects.get? key with _ | old
      · exact hnew
      · exact hold old
    · exact h key p hp

theorem name_inv (h : o.name = .ok name) : o.metadata.name = some name := by
  unfold Object.name at h
  split at h
  · rename_i hname
    cases h
    exact hname
  · cases h

theorem Named.accept (h : t.Named) (v : Verb Spec Status) : (t.accept s v).2.Named :=
  forall_accept (fun _ _ _ ho => ho) (fun _ _ _ ho => ho)
    (fun _ _ _ ho => ⟨name_inv ho, fun _ => name_inv ho⟩) h

end ObjectStore

namespace Controller

variable {σ : Type} {k : Kind Spec Status} {own : Verb Spec Status → Query}
  {answer : (q : Query) → σ → q.Answer × σ} {store : σ → ObjectStore Spec Status}

theorem Kind.Keeps.store_answer (hk : k.Keeps own answer store) (hsend : k.Sends own) (q : Query)
    (s : σ) : store (answer q s).2 = store s ∨
      ∃ v, q = own v ∧ store (answer q s).2 = ((store s).accept k.schema v).2 := by
  by_cases hq : ∃ v, q = own v
  · obtain ⟨v, rfl⟩ := hq
    obtain ⟨f, hf, -⟩ := hsend.send_eq v
    have hstored := hk.send v s
    rw [hf] at hstored
    rcases hstored with ⟨-, hstore⟩ | ⟨-, hstore⟩
    · exact .inr ⟨v, rfl, hstore⟩
    · exact .inl hstore
  · exact .inl (hk.other q s fun v hv => hq ⟨v, hv⟩)

theorem Kind.Keeps.named_answer (hk : k.Keeps own answer store) (hsend : k.Sends own) (q : Query)
    {s : σ} (h : (store s).Named) : (store (answer q s).2).Named := by
  rcases hk.store_answer hsend q s with hstore | ⟨v, -, hstore⟩
  · rwa [hstore]
  · rw [hstore]
    exact h.accept v

namespace World

variable (w : World σ) {s : σ}

theorem after_preserves {P : Query → Prop} (I : σ → Prop)
    (hI : ∀ q s, P q → I s → I (w.answer q s).2) {turn : Turn} (hP : ∀ a ∈ w.asked s turn, P a.1)
    (hs : I s) : I (w.after s turn) :=
  Program.run_preserves I hI hP hs

variable (s) in
/-- The questions of an attempt, each with the world that it was asked in. -/
def visited (turn : Turn) : List (Query × σ) := (w.task s turn).run.visited w.answer s

theorem visited_preserves {P : Query → Prop} (I : σ → Prop)
    (hI : ∀ q s, P q → I s → I (w.answer q s).2) {turn : Turn} (hP : ∀ a ∈ w.asked s turn, P a.1)
    (hs : I s) : ∀ v ∈ w.visited s turn, I v.2 :=
  (Program.visited_preserves I hI hP hs).1

/-- What a question of an attempt brings about holds at the end, if the questions preserve it. -/
theorem after_of_visited {P : Query → Prop} (I : σ → Prop)
    (hI : ∀ q s, P q → I s → I (w.answer q s).2) {turn : Turn} (hP : ∀ a ∈ w.asked s turn, P a.1)
    {v : Query × σ} (hv : v ∈ w.visited s turn) (h : I (w.answer v.1 v.2).2) : I (w.after s turn) :=
  Program.run_of_visited hI hP hv h

theorem afterAll_preserves (I : σ → Prop) {turns : List Turn}
    (hI : ∀ turn ∈ turns, ∀ s, I s → I (w.after s turn)) (hs : I s) : I (w.afterAll s turns) :=
  List.foldlRecOn turns w.after hs fun s h turn hturn => hI turn hturn s h

theorem named_switches (h : (w.switches s).Named) (turn : Turn) :
    (w.switches (w.after s turn)).Named :=
  w.after_preserves (P := fun _ => True) (fun s => (w.switches s).Named)
    (fun q _ _ h => w.keepsSwitches.named_answer managed_switchKind.sends q h)
    (fun _ _ => trivial) h

theorem named_interfaces (h : (w.interfaces s).Named) (turn : Turn) :
    (w.interfaces (w.after s turn)).Named :=
  w.after_preserves (P := fun _ => True) (fun s => (w.interfaces s).Named)
    (fun q _ _ h => w.keepsInterfaces.named_answer managed_interfaceKind.sends q h)
    (fun _ _ => trivial) h

end World

end Controller

end SwitchFleet
