import SwitchFleet.Proofs.Agent.Listing
import SwitchFleet.Proofs.Controller.Convergence
import SwitchFleet.Proofs.Controller.Naming

/-!
# Interfaces that settle

The whole program at work on its interfaces: attempts at interfaces follow each other in any order, and
nothing else happens.

* `Fleet.world`: a fleet as a world with the resources of the operator.
* `Fleet.Tended`: what an attempt at one interface changes in a fleet. `tended_after`: every attempt
  changes no more.
* `Fleet.Settling`: what holds of a fleet after any attempts at its interfaces. **`settling_afterAll`**: an
  interface that is ready is as it is wanted, and no other admin status is changed.
-/

namespace SwitchFleet.Controller.Fleet

/-- A fleet as a world with the resources of the operator. -/
def world : World Fleet where
  answer := answer
  switches := Fleet.switches
  interfaces := Fleet.interfaces
  keepsSwitches := backedSwitches.keeps fun _ f hq => switches_answer hq f
  keepsInterfaces := backed.keeps fun _ f hq => interfaces_answer hq f

/-! ## Questions -/

theorem admin_answer (q : Query) (f : Fleet) (name : String) :
    (answer q f).2.host.admin? name = f.host.admin? name ∨
      ∃ address status, q = .call address (.setAdminStatus name status) ∧
        ((answer q f).2.host.admin? name = some status.text ∨
          (answer q f).2.host.admin? name = some ((f.host.admin? name).getD "")) := by
  cases q with
  | call address op =>
    simp only [answer_call]
    by_cases hf : Client.Fits op
    · rw [Client.perform_serve hf]
      rcases f.host.admin_after op name with hsame | ⟨status, rfl, hset⟩
      · exact .inl hsame
      · exact .inr ⟨address, status, rfl, hset⟩
    · rw [Client.perform_serve_long hf]
      exact .inl rfl
  | _ => exact .inl rfl

/-! ## One attempt -/

variable {f f' : Fleet} {key : String} {o : SwitchInterface}

/-- What an attempt at the interface `o`, which is stored under `key`, changes in a fleet: no other
resource, and no admin status but that of the interface, which becomes the wanted one. -/
structure Tended (key : String) (o : SwitchInterface) (f f' : Fleet) : Prop where
  others : ∀ other, other ≠ key → f'.interfaces.objects.get? other = f.interfaces.objects.get? other
  admins : ∀ name, name ≠ o.spec.handle → f'.host.admin? name = f.host.admin? name
  admin : f'.host.admin? o.spec.handle = f.host.admin? o.spec.handle ∨
    f'.host.admin? o.spec.handle = some (Text.lower o.spec.adminState.name)

theorem Tended.answer {q : Query} (h : Tended key o f f')
    (hstored : ∃ text, f.host.admin? o.spec.handle = some text)
    (hq : Permitted o q ∨ Kind.Routine .interfaces key q) : Tended key o f (answer q f').2 := by
  obtain ⟨text, hstored⟩ := hstored
  refine ⟨fun other hne => ?_, fun name hne => ?_, ?_⟩
  · rw [← h.others other hne]
    rcases world.keepsInterfaces.store_answer managed_interfaceKind.sends q f' with
      hstore | ⟨v, rfl, hstore⟩
    · exact congrArg (·.objects.get? other) hstore
    · rcases hq with hq | hnow | ⟨v', hv', hown⟩
      · exact hq.elim
      · cases hnow
      · cases hown
        exact (congrArg (·.objects.get? other) hstore).trans
          (ObjectStore.get?_accept_of_patches hv' hne)
  · rw [← h.admins name hne]
    rcases admin_answer q f' name with hsame | ⟨address, status, rfl, -⟩
    · exact hsame
    · rcases hq with hq | hnow | ⟨v, -, hown⟩
      · exact absurd hq.1 hne
      · cases hnow
      · cases hown
  · rcases admin_answer q f' o.spec.handle with hsame | ⟨address, status, rfl, hset⟩
    · rw [hsame]
      exact h.admin
    · rcases hq with hq | hnow | ⟨v, -, hown⟩
      · obtain ⟨-, htext⟩ := lineStatus_ok hq.2
        rcases hset with hset | hset
        · rw [hset, htext]
          exact .inr rfl
        · rw [hset]
          rcases h.admin with hadmin | hadmin
          · rw [hadmin, hstored]
            exact .inl rfl
          · rw [hadmin]
            exact .inr rfl
      · cases hnow
      · cases hown

/-- **An attempt at an interface** changes no more. -/
theorem tended_after (hnamed : f.interfaces.Named) (hget : f.interfaces.objects.get? key = some o)
    (hstored : ∃ text, f.host.admin? o.spec.handle = some text) :
    Tended key o f (world.after f (.interface key)) := by
  refine world.after_preserves (P := fun q => Permitted o q ∨ Kind.Routine .interfaces key q)
    (Tended key o f) (fun q f' hq h => h.answer hstored hq) (fun a ha => ?_)
    ⟨fun _ _ => rfl, fun _ _ => rfl, .inl rfl⟩
  obtain ⟨p, hp, hasked⟩ := world.mem_asked_interface f ha
  obtain rfl := Option.some.inj (hget.symm.trans hp)
  rcases hasked with hpermitted | ⟨self, hself, hroutine⟩
  · exact .inl hpermitted
  · obtain rfl := Option.some.inj ((hnamed key o hget).symm.trans hself)
    exact .inr hroutine

theorem after_interface (hget : f.interfaces.objects.get? key = some o) :
    world.after f (.interface key) = ((reconcileInterface o).run.run answer f).2 := by
  rw [World.after, World.task_interface hget]
  rfl

theorem ready_of_runs {r : Except ControllerError Action} {asked : List (Program.Asked Query.Answer)}
    (h : Program.Runs answer (reconcileInterface o) f r f' asked) (hname : o.metadata.name = some key)
    (hget : f.interfaces.objects.get? key = some o) {p : SwitchInterface}
    (hp : f'.interfaces.objects.get? key = some p)
    (hready : interfaceKind.stateOf p = some .ready) :
    interfaceKind.stateOf o = some .ready ∨
      f'.host.admin? o.spec.handle = some (Text.lower o.spec.adminState.name) := by
  have hm := managed_interfaceKind
  have hk : interfaceKind.Keeps .interfaces answer Fleet.interfaces := world.keepsInterfaces
  have hkept (he : p.status = o.status) : interfaceKind.stateOf o = some .ready := by
    rw [← Kind.stateOf_eq he, hready]
  rcases Kind.reconcile_inv hm.sends hname h with ⟨wanted, rx, -, -, hensure⟩ | ⟨-, -, hcompare⟩
  · refine .inl (hkept ?_)
    rcases Kind.ensure_inv hm.sends hk hname hget hensure with ⟨-, rfl, -⟩ | ⟨-, a, -, -, hfound⟩
    · rw [Option.some.inj (hget.symm.trans hp)]
    · exact Kind.status_afterPatch (hfound.symm.trans hp)
  · obtain ⟨outcome, status, f₁, t₁, flushed, t₂, hobs, hflush, -, -, ⟨-, hfound⟩ | ⟨e, -, hfound⟩⟩ :=
      hm.compare_inv hk hget hcompare
    · have hhost : f'.host = f₁.host := Kind.flush_keeps hm.sends Fleet.host (fun _ _ => rfl) hflush
      refine .inr ?_
      obtain rfl := Option.some.inj (hfound.symm.trans hp)
      have hstate : status.state = some .ready :=
        (hm.lenses.state_judge o.metadata.generation outcome _ status).symm.trans hready
      rcases hs : interfaceKind.state (o.status.getD interfaceKind.empty) with _ | state
      · obtain ⟨-, rfl, -, -⟩ := Kind.sinceSeen_inv hs hobs
        cases hstate
      · have hseen : (interfaceKind.state (o.status.getD interfaceKind.empty)).isSome = true := by
          rw [hs]
          rfl
        rw [hhost]
        cases exit_observeInterface ((Kind.observes_sinceSeen hseen).mp hobs) with
        | ready hc ha ho hn => exact (converged_of_changes hc ha ho hn SwitchInterfaceStatus.empty).configured
        | _ => cases hstate
    · refine .inl (hkept ?_)
      rw [hfound, hget] at hp
      rw [Option.some.inj hp]

/-! ## All attempts -/

/-- The resources of a fleet are stored under their own names, no two interfaces are for the same handle,
and all handles have an admin status. -/
structure Separate (f : Fleet) : Prop where
  named : f.interfaces.Named
  handle_injective : ∀ key key' x x', f.interfaces.spec? key = some x →
    f.interfaces.spec? key' = some x' → x.handle = x'.handle → key = key'
  stored : ∀ key x, f.interfaces.spec? key = some x → ∃ text, f.host.admin? x.handle = some text

/-- What holds of the fleet `f'` if the fleet `f` becomes it by attempts at interfaces. -/
structure Settling (f f' : Fleet) : Prop where
  named : f'.interfaces.Named
  specs : ∀ key x, f'.interfaces.spec? key = some x → f.interfaces.spec? key = some x
  /-- An admin status is kept, or it is the one that is wanted of an interface. -/
  admin : ∀ name, f'.host.admin? name = f.host.admin? name ∨
    ∃ key x, f.interfaces.spec? key = some x ∧ x.handle = name ∧
      f'.host.admin? name = some (Text.lower x.adminState.name)
  /-- An interface that is ready is as it is wanted. -/
  ready : ∀ key o, f'.interfaces.objects.get? key = some o →
    interfaceKind.stateOf o = some .ready →
      f'.host.admin? o.spec.handle = some (Text.lower o.spec.adminState.name)

theorem spec?_of_get? {name : String} (hget : f.interfaces.objects.get? name = some o) :
    f.interfaces.spec? name = some o.spec := by
  unfold ObjectStore.spec?
  rw [hget]
  rfl

/-- An attempt at an interface leaves the specifications of interfaces that do not go away. -/
theorem spec?_of_after {name : String} {x : SwitchInterfaceSpec}
    (hspec : (world.after f (.interface key)).interfaces.spec? name = some x) :
    f.interfaces.spec? name = some x := by
  have hremains := world.remains_after name f (.interface key)
  rw [world.declared_interface, show world.spec? name (world.after f _) = some x from hspec] at hremains
  exact hremains.of_nil

theorem after_none (hget : f.interfaces.objects.get? key = none) :
    world.after f (.interface key) = f := by
  rw [World.after, World.task_no_interface hget]
  rfl

theorem Settling.after (hf : f.Separate) (h : Settling f f') (key : String) :
    Settling f (world.after f' (.interface key)) := by
  rcases hget : f'.interfaces.objects.get? key with _ | o
  · rwa [after_none hget]
  have hspec := h.specs key o.spec (spec?_of_get? hget)
  have hstored : ∃ text, f'.host.admin? o.spec.handle = some text := by
    rcases h.admin o.spec.handle with hsame | ⟨_, _, -, -, hset⟩
    · rw [hsame]
      exact hf.stored key o.spec hspec
    · exact ⟨_, hset⟩
  have ht := tended_after h.named hget hstored
  refine ⟨world.named_interfaces h.named _, fun name x hx => h.specs name x (spec?_of_after hx), ?_, ?_⟩
  · intro name
    by_cases hname : name = o.spec.handle
    · subst hname
      rcases ht.admin with hsame | hset
      · rw [hsame]
        exact h.admin _
      · exact .inr ⟨key, o.spec, hspec, rfl, hset⟩
    · rw [ht.admins name hname]
      exact h.admin name
  · intro other p hp hready
    by_cases hother : other = key
    · subst hother
      have hps : p.spec = o.spec := Option.some.inj
        ((spec?_of_after (spec?_of_get? hp)).symm.trans (spec?_of_get? hget))
      rw [hps]
      rw [after_interface hget] at hp ht ⊢
      rcases ready_of_runs (.self (reconcileInterface o) f') (h.named _ o hget) hget hp hready with
        hbefore | hset
      · rcases ht.admin with hsame | hset
        · rw [hsame]
          exact h.ready _ o hget hbefore
        · exact hset
      · exact hset
    · rw [ht.others other hother] at hp
      have hne : p.spec.handle ≠ o.spec.handle := fun he => hother
        (hf.handle_injective other key _ _ (h.specs other _ (spec?_of_get? hp)) hspec he)
      rw [ht.admins _ hne]
      exact h.ready other p hp hready

/-- **Interfaces that settle.** -/
theorem settling_afterAll (hf : f.Separate)
    (hnew : ∀ key o, f.interfaces.objects.get? key = some o → interfaceKind.stateOf o ≠ some .ready)
    (keys : List String) : Settling f (world.afterAll f (keys.map .interface)) := by
  have hstart : Settling f f :=
    ⟨hf.named, fun _ _ => id, fun _ => .inl rfl, fun key o hget hready =>
      absurd hready (hnew key o hget)⟩
  refine world.afterAll_preserves (Settling f) (fun turn hturn f' h => ?_) hstart
  obtain ⟨key, -, rfl⟩ := List.mem_map.mp hturn
  exact h.after hf key

end SwitchFleet.Controller.Fleet
