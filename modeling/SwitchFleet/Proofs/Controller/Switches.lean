import SwitchFleet.Controller.Switches
import SwitchFleet.Proofs.Controller.Attempt
import SwitchFleet.Proofs.Controller.Flush
import SwitchFleet.Proofs.Resource.Codecs

/-!
# Comparisons of switches

* `SwitchExit`: the ways in which the comparison of a switch with its device ends, each with its
  outcome, the status, and the questions that were asked. **`exit_observeSwitch`**: there are no
  others.
* `Completed`: questions and answers that show a complete comparison.
* `child_ok_inv`: the resource that a switch wants for an interface.
* `lenses_switchKind`, `written_switchKind`: what is needed of statuses of switches. `sends_switchKind`:
  verbs on switches are questions that may be refused.
-/

namespace SwitchFleet.Controller

theorem lenses_switchKind : switchKind.Lenses :=
  ⟨fun _ _ => rfl, fun _ _ => rfl, fun _ _ => rfl⟩

theorem written_switchKind : switchKind.Written :=
  ⟨SwitchStatus.lawful_codec, fun _ => rfl⟩

theorem sends_switchKind : switchKind.Sends .switches where
  verb_eq _ := rfl
  send_eq _ := ⟨id, rfl, fun r => by cases r <;> rfl⟩

/-- A status with the identity of a device. -/
def identified (b : SwitchStatus) (d : Device) : SwitchStatus :=
  { b with macAddress := d.macAddress, firmwareVersion := d.osVersion, sku := d.hardwareSku }

/-! ## Traces of calls -/

/-- A call of an agent that fails. -/
def isFailedCall : Program.Asked Query.Answer → Bool
  | ⟨.call .., .error _⟩ => true
  | _ => false

/-- A call of an agent that gives a report of a kind. -/
def isReport (k : Operation.Kind) : Program.Asked Query.Answer → Bool
  | ⟨.call _ op, .ok _⟩ => op.kind = k
  | _ => false

/-- A question that is not a call of an agent. -/
def NoCall : Query → Prop
  | .call .. => False
  | _ => True

section

variable {t : List (Program.Asked Query.Answer)} (ht : ∀ a ∈ t, NoCall a.1)

include ht

theorem any_isFailedCall_eq_false : t.any isFailedCall = false := by
  refine List.any_eq_false.mpr fun ⟨q, r⟩ ha => ?_
  have hq := ht _ ha
  cases q with
  | call address op => exact hq.elim
  | _ => exact Bool.false_ne_true

theorem any_isReport_eq_false (k : Operation.Kind) : t.any (isReport k) = false := by
  refine List.any_eq_false.mpr fun ⟨q, r⟩ ha => ?_
  have hq := ht _ ha
  cases q with
  | call address op => exact hq.elim
  | _ => exact Bool.false_ne_true

end

/-! ## Complete comparisons -/

/-- The application of a resource for an interface, which succeeds. -/
def applied (c : SwitchInterface) : Program.Asked Query.Answer := ⟨.interfaces (.apply c), .ok ()⟩

/-- Questions and answers that show a complete comparison: the identity, the interfaces and the ports
were reported, and a resource was applied for each of the interfaces. -/
structure Completed (o : Switch) (name : String) (asked : List (Program.Asked Query.Answer)) :
    Prop where
  identity : asked.any (isReport .deviceInfo) = true
  children : ∃ address, ∃ is : List Interface, ⟨.call address .interfaces, .ok is⟩ ∈ asked ∧
    ∀ i ∈ is, ∃ c, child o name i = .ok c ∧ applied c ∈ asked
  ports : asked.any (isReport .ports) = true

section

/-- A question that is neither a call of an agent nor about interfaces. -/
def Aside : Query → Prop
  | .call .. | .interfaces _ => False
  | _ => True

theorem Aside.noCall {q : Query} (hq : Aside q) : NoCall q := by
  cases q with
  | call address op => exact hq
  | _ => trivial

theorem not_aside_of_isReport {k : Operation.Kind} {a : Program.Asked Query.Answer}
    (h : isReport k a = true) : ¬ Aside a.1 := by
  obtain ⟨q, r⟩ := a
  cases q with
  | call address op => exact id
  | _ => cases h

variable {o : Switch} {name : String} {t t' : List (Program.Asked Query.Answer)}

theorem Completed.mono (h : Completed o name t) (hmem : ∀ a ∈ t, ¬ Aside a.1 → a ∈ t') :
    Completed o name t' := by
  have hany (k : Operation.Kind) (hk : t.any (isReport k) = true) : t'.any (isReport k) = true := by
    obtain ⟨a, ha, hr⟩ := List.any_eq_true.mp hk
    exact List.any_eq_true.mpr ⟨a, hmem a ha (not_aside_of_isReport hr), hr⟩
  obtain ⟨hd, ⟨address, is, hi, hc⟩, hp⟩ := h
  refine ⟨hany _ hd, ⟨address, is, hmem _ hi id, fun i hm => ?_⟩, hany _ hp⟩
  obtain ⟨c, hc, ha⟩ := hc i hm
  exact ⟨c, hc, hmem _ ha id⟩

theorem completed_append (ht' : ∀ a ∈ t', Aside a.1) :
    Completed o name (t ++ t') ↔ Completed o name t := by
  refine ⟨fun h => h.mono fun a ha hq => ?_, fun h => h.mono fun a ha _ => List.mem_append_left _ ha⟩
  exact (List.mem_append.mp ha).resolve_right fun h => hq (ht' a h)

end

/-! ## Resources for the interfaces -/

section

variable {o : Switch} {name : String} {i : Interface} {c : SwitchInterface}

theorem child_ok_inv (h : child o name i = .ok c) :
    ∃ owner, ownerReference? o = some owner ∧ c = {
      metadata := { Metadata.named (childName name i.name) with
        labels := some [(Group.switchLabel, name)]
        ownerReferences := some [owner] }
      spec := ⟨i.name, some ⟨name⟩, i.admin.observedAdmin⟩
      status := none } := by
  unfold child at h
  split at h
  · cases h
  · rename_i owner howner
    exact ⟨owner, howner, (Except.ok.inj h).symm⟩

theorem status_child (h : child o name i = .ok c) : c.status = none := by
  obtain ⟨owner, -, rfl⟩ := child_ok_inv h
  rfl

theorem isDeleting_child (h : child o name i = .ok c) : c.metadata.isDeleting = false := by
  obtain ⟨owner, -, rfl⟩ := child_ok_inv h
  rfl

end

variable {σ : Type} (answer : (q : Query) → σ → q.Answer × σ) (o : Switch) (name : String)
  (b : SwitchStatus)

variable {answer o name} in
theorem applyChildren_asked {is : List Interface} {s s' : σ} {r : Except ControllerError Unit}
    {asked : List (Program.Asked Query.Answer)}
    (h : Program.Runs answer (applyChildren o name is) s r s' asked) :
    (∀ a ∈ asked, NoCall a.1) ∧
      (r = .ok () → ∀ i ∈ is, ∃ c, child o name i = .ok c ∧ applied c ∈ asked) := by
  induction is generalizing s asked with
  | nil =>
    obtain ⟨-, rfl⟩ := h
    exact ⟨fun _ ha => absurd ha List.not_mem_nil, fun _ _ hi => absurd hi List.not_mem_nil⟩
  | cons i is ih =>
    rcases h.bind_inv with ⟨e, rfl, hl⟩ | ⟨c, s₁, t₁, t₂, hl, hf, rfl⟩
    · obtain ⟨-, -, rfl⟩ := hl.lift_inv
      exact ⟨fun _ ha => absurd ha List.not_mem_nil, fun hr => nomatch hr⟩
    · obtain ⟨hc, rfl, rfl⟩ := hl.lift_inv
      rcases hf.bind_inv with ⟨e, rfl, ha⟩ | ⟨⟨⟩, s₂, t₁, t₂, ha, hrest, rfl⟩
      · obtain ⟨-, rfl⟩ := onInterfaces_inv ha
        exact ⟨List.forall_mem_singleton.mpr trivial, fun hr => nomatch hr⟩
      · obtain ⟨-, rfl⟩ := onInterfaces_inv ha
        obtain ⟨hasked, hall⟩ := ih hrest
        refine ⟨List.forall_mem_cons.mpr ⟨trivial, hasked⟩, fun hr => ?_⟩
        refine List.forall_mem_cons.mpr ⟨⟨c, hc.symm, List.mem_cons_self⟩, fun j hj => ?_⟩
        obtain ⟨d, hd, hm⟩ := hall hr j hj
        exact ⟨d, hd, List.mem_cons_of_mem _ hm⟩

theorem asks_applyChildren {P : Query → Prop} {o : Switch} {name : String} (is : List Interface)
    (hP : ∀ i ∈ is, ∀ c, child o name i = .ok c → P (.interfaces (.apply c))) :
    TaskAsks P (applyChildren o name is) := by
  induction is with
  | nil => exact .pure _
  | cons i is ih =>
    obtain ⟨hi, his⟩ := List.forall_mem_cons.mp hP
    rcases hc : child o name i with e | c
    · have hfails : applyChildren o name (i :: is) = throw e := by
        rw [applyChildren, hc]
        rfl
      rw [hfails]
      exact .throw trivial
    · have happlies : applyChildren o name (i :: is) =
          ExceptT.mk (onInterfaces (.apply c)) >>= fun _ => applyChildren o name is := by
        rw [applyChildren, hc]
        rfl
      rw [happlies]
      exact .bind (.ask (hi c hc) fun r => .outcome r) fun _ => ih his

/-- What the comparison of a switch may ask: no change of the device, and nothing about resources but
that new ones for interfaces are applied. -/
def Inspects : Query → Prop
  | .client _ => True
  | .call _ op => op.kind ≠ .setAdminStatus
  | .interfaces v => ∃ c, v = .apply c ∧ c.status = none
  | .switches _ | .now => False

theorem Inspects.ne_switches {q : Query} (h : Inspects q) (v : Verb SwitchSpec SwitchStatus) :
    q ≠ .switches v := by
  rintro rfl
  exact h

theorem asks_observeSwitch (o : Switch) (name : String) : Asks Inspects (observeSwitch o name) :=
  .bind (.attempt (.ask trivial fun r => .outcome r)) fun _ =>
    .bind (.reportOrFail nofun) fun _ => .bind (.modify _) fun _ =>
    .bind (.reportOrFail nofun) fun is =>
    .bind (.attempt (asks_applyChildren is fun _ _ c hc => ⟨c, rfl, status_child hc⟩)) fun _ =>
    .bind (.reportOrFail nofun) fun _ => .bind (.modify _) fun _ => .pure _

/-! ## All ways to end -/

/-- The ways in which the comparison of a switch ends: its outcome, the status, and the questions that
were asked. -/
inductive SwitchExit :
    Except ControllerError Action → SwitchStatus → List (Program.Asked Query.Answer) → Prop
  | noClient (e : ControllerError) : SwitchExit (.error e) b [⟨.client o, .error e⟩]
  | noDevice (address : String) (e : ClientError) :
    SwitchExit (.error (.agent e)) { b with state := some .failed }
      [⟨.client o, .ok address⟩, ⟨.call address .deviceInfo, .error e⟩]
  | noInterfaces (address : String) (d : Device) (e : ClientError) :
    SwitchExit (.error (.agent e)) { identified b d with state := some .failed }
      [⟨.client o, .ok address⟩, ⟨.call address .deviceInfo, .ok d⟩,
        ⟨.call address .interfaces, .error e⟩]
  | unapplied (address : String) (d : Device) (is : List Interface) {s s' : σ} {e : ControllerError}
    {t : List (Program.Asked Query.Answer)}
    (ha : Program.Runs answer (applyChildren o name is) s (.error e) s' t) :
    SwitchExit (.error e) (identified b d)
      ([⟨.client o, .ok address⟩, ⟨.call address .deviceInfo, .ok d⟩,
        ⟨.call address .interfaces, .ok is⟩] ++ t)
  | noPorts (address : String) (d : Device) (is : List Interface) (e : ClientError) {s s' : σ}
    {t : List (Program.Asked Query.Answer)}
    (ha : Program.Runs answer (applyChildren o name is) s (.ok ()) s' t) :
    SwitchExit (.error (.agent e)) { identified b d with state := some .failed }
      ([⟨.client o, .ok address⟩, ⟨.call address .deviceInfo, .ok d⟩,
        ⟨.call address .interfaces, .ok is⟩] ++ (t ++ [⟨.call address .ports, .error e⟩]))
  | ready (address : String) (d : Device) (is : List Interface) (ps : List Port) {s s' : σ}
    {t : List (Program.Asked Query.Answer)}
    (ha : Program.Runs answer (applyChildren o name is) s (.ok ()) s' t) :
    SwitchExit (.ok .awaitChange)
      { identified b d with ports := ps.map (portStatus name is), state := some .ready }
      ([⟨.client o, .ok address⟩, ⟨.call address .deviceInfo, .ok d⟩,
        ⟨.call address .interfaces, .ok is⟩] ++ (t ++ [⟨.call address .ports, .ok ps⟩]))

variable {answer o name b}

/-- **The comparison of a switch ends in one of these ways.** -/
theorem exit_observeSwitch {s s' : σ} {r : Except ControllerError Action} {b' : SwitchStatus}
    {asked : List (Program.Asked Query.Answer)}
    (h : Observes answer (observeSwitch o name) b s r b' s' asked) :
    SwitchExit answer o name b r b' asked := by
  rcases h.attempt_bind_inv with ⟨e, rfl, hc, rfl⟩ | ⟨address, s₁, _, _, hc, h₁, rfl⟩
  · obtain ⟨-, rfl⟩ := client_inv hc
    exact .noClient e
  obtain ⟨-, rfl⟩ := client_inv hc
  rcases h₁.reportOrFail_bind_inv with ⟨e, rfl, -, rfl, rfl⟩ | ⟨d, s₂, _, -, h₂, rfl⟩
  · exact .noDevice address e
  have h₃ := h₂.modify_bind_inv
  rcases h₃.reportOrFail_bind_inv with ⟨e, rfl, -, rfl, rfl⟩ | ⟨is, s₃, _, -, h₄, rfl⟩
  · exact .noInterfaces address d e
  rcases h₄.attempt_bind_inv with ⟨e, rfl, ha, rfl⟩ | ⟨⟨⟩, s₄, _, _, ha, h₅, rfl⟩
  · exact .unapplied address d is ha
  rcases h₅.reportOrFail_bind_inv with ⟨e, rfl, -, rfl, rfl⟩ | ⟨ps, s₅, _, -, h₆, rfl⟩
  · exact .noPorts address d is e ha
  obtain ⟨rfl, rfl, rfl, rfl⟩ := h₆.modify_bind_inv.pure_inv
  exact .ready address d is ps ha

/-! ## States that are left -/

/-- **States that are left.** A comparison that succeeds is complete and leaves the switch ready. One
that fails is not complete. It leaves the switch failed if a call of the agent failed, and in the state
it was in if none did. -/
theorem SwitchExit.state_eq {r : Except ControllerError Action} {b' : SwitchStatus}
    {asked : List (Program.Asked Query.Answer)} (h : SwitchExit answer o name b r b' asked) :
    (r = .ok .awaitChange ∧ b'.state = some .ready ∧ Completed o name asked) ∨
      ∃ e, r = .error e ∧ asked.any (isReport .ports) = false ∧
        b'.state = if asked.any isFailedCall = true then some .failed else b.state := by
  cases h with
  | noClient e => exact .inr ⟨_, rfl, rfl, rfl⟩
  | noDevice address e => exact .inr ⟨_, rfl, rfl, rfl⟩
  | noInterfaces address d e => exact .inr ⟨_, rfl, rfl, rfl⟩
  | unapplied address d is ha =>
    have ht := (applyChildren_asked ha).1
    have hcall := any_isFailedCall_eq_false ht
    have hreport := any_isReport_eq_false ht .ports
    refine .inr ⟨_, rfl, ?_, ?_⟩
    · rw [List.any_append, hreport]
      rfl
    · rw [List.any_append, hcall]
      rfl
  | noPorts address d is e ha =>
    have ht := (applyChildren_asked ha).1
    have hcall := any_isFailedCall_eq_false ht
    have hreport := any_isReport_eq_false ht .ports
    refine .inr ⟨_, rfl, ?_, ?_⟩
    · rw [List.any_append, List.any_append, hreport]
      rfl
    · rw [List.any_append, List.any_append, hcall]
      rfl
  | ready address d is ps ha =>
    refine .inl ⟨rfl, rfl, ?_, ⟨address, is, by simp, fun i hi => ?_⟩, ?_⟩
    · rfl
    · obtain ⟨c, hc, hm⟩ := (applyChildren_asked ha).2 rfl i hi
      exact ⟨c, hc, List.mem_append_right _ (List.mem_append_left _ hm)⟩
    · simp [isReport, Operation.kind]

theorem SwitchExit.applied_inv {r : Except ControllerError Action} {b' : SwitchStatus}
    {asked : List (Program.Asked Query.Answer)} (h : SwitchExit answer o name b r b' asked)
    {c : SwitchInterface} {a : Program.Asked Query.Answer} (ha : a ∈ asked)
    (hc : a.1 = .interfaces (.apply c)) :
    ∃ address, ∃ is : List Interface, ⟨.call address .interfaces, .ok is⟩ ∈ asked ∧
      ∃ i ∈ is, child o name i = .ok c := by
  have hchildren {is : List Interface} {s s' : σ} {rc : Except ControllerError Unit}
      {t : List (Program.Asked Query.Answer)}
      (hr : Program.Runs answer (applyChildren o name is) s rc s' t) (ha : a ∈ t) :
      ∃ i ∈ is, child o name i = .ok c := by
    have hasks : TaskAsks (fun q => ∀ c, q = .interfaces (.apply c) →
        ∃ i ∈ is, child o name i = .ok c) (applyChildren o name is) := by
      refine asks_applyChildren is fun i hi c hc d hd => ?_
      cases hd
      exact ⟨i, hi, hc⟩
    exact hr.within hasks a ha c hc
  have hhead {address : String} {d : Except ClientError Device}
      {is : Except ClientError (List Interface)}
      (ha : a ∈ ([⟨.client o, .ok address⟩, ⟨.call address .deviceInfo, d⟩,
        ⟨.call address .interfaces, is⟩] : List (Program.Asked Query.Answer))) : False := by
    simp only [List.mem_cons, List.not_mem_nil, or_false] at ha
    rcases ha with rfl | rfl | rfl <;> cases hc
  cases h with
  | noClient e =>
    obtain rfl := List.mem_singleton.mp ha
    cases hc
  | noDevice address e =>
    simp only [List.mem_cons, List.not_mem_nil, or_false] at ha
    rcases ha with rfl | rfl <;> cases hc
  | noInterfaces address d e => exact (hhead ha).elim
  | unapplied address d is hr =>
    rcases List.mem_append.mp ha with ha | ha
    · exact (hhead ha).elim
    · exact ⟨address, is, by simp, hchildren hr ha⟩
  | noPorts address d is e hr =>
    rcases List.mem_append.mp ha with ha | ha
    · exact (hhead ha).elim
    · rcases List.mem_append.mp ha with ha | ha
      · exact ⟨address, is, by simp, hchildren hr ha⟩
      · obtain rfl := List.mem_singleton.mp ha
        cases hc
  | ready address d is ps hr =>
    rcases List.mem_append.mp ha with ha | ha
    · exact (hhead ha).elim
    · rcases List.mem_append.mp ha with ha | ha
      · exact ⟨address, is, by simp, hchildren hr ha⟩
      · obtain rfl := List.mem_singleton.mp ha
        cases hc

theorem SwitchExit.conditions_eq {r : Except ControllerError Action} {b' : SwitchStatus}
    {asked : List (Program.Asked Query.Answer)} (h : SwitchExit answer o name b r b' asked) :
    b'.conditions = b.conditions := by
  cases h <;> rfl

theorem SwitchExit.isSome_state {r : Except ControllerError Action} {b' : SwitchStatus}
    {asked : List (Program.Asked Query.Answer)} (h : SwitchExit answer o name b r b' asked)
    (hb : b.state.isSome = true) : b'.state.isSome = true := by
  rcases h.state_eq with ⟨-, hs, -⟩ | ⟨e, -, -, hs⟩
  · exact Option.isSome_iff_exists.mpr ⟨_, hs⟩
  · rw [hs]
    split
    · rfl
    · exact hb

end SwitchFleet.Controller
