import SwitchFleet.Controller.Reconcile
import SwitchFleet.Proofs.Program.Trace

/-!
# Comparisons with a device, step by step

* `Observes`: a comparison ends with an outcome and a status, after certain questions.
* `Observes.bind_inv`: a sequence fails in its first part, or goes on after it. For each way to build
  a single step there is a rule of this kind, which also tells what the step did: `attempt_bind_inv`,
  `orFail_bind_inv`, `reportOrFail_bind_inv`, …
-/

namespace SwitchFleet.Controller

variable {Spec Status α β σ : Type}

/-! ## Single questions -/

section

variable {answer : (q : Query) → σ → q.Answer × σ} {s s' : σ}
  {asked : List (Program.Asked Query.Answer)}

theorem client_inv {o : Switch} {r : Except ControllerError String}
    (h : Program.Runs answer (client o) s r s' asked) :
    answer (.client o) s = (r, s') ∧ asked = [⟨.client o, r⟩] := by
  obtain ⟨hr, rfl⟩ := h
  obtain ⟨rfl, rfl⟩ := Prod.mk.inj hr
  exact ⟨rfl, rfl⟩

theorem onSwitches_inv {v : Verb SwitchSpec SwitchStatus} {r : v.Outcome}
    (h : Program.Runs answer (ExceptT.mk (onSwitches v)) s r s' asked) :
    answer (.switches v) s = (r, s') ∧ asked = [⟨.switches v, r⟩] := by
  obtain ⟨hr, rfl⟩ := h
  obtain ⟨rfl, rfl⟩ := Prod.mk.inj hr
  exact ⟨rfl, rfl⟩

theorem onInterfaces_inv {v : Verb SwitchInterfaceSpec SwitchInterfaceStatus} {r : v.Outcome}
    (h : Program.Runs answer (ExceptT.mk (onInterfaces v)) s r s' asked) :
    answer (.interfaces v) s = (r, s') ∧ asked = [⟨.interfaces v, r⟩] := by
  obtain ⟨hr, rfl⟩ := h
  obtain ⟨rfl, rfl⟩ := Prod.mk.inj hr
  exact ⟨rfl, rfl⟩

end

/-! ## Comparisons -/

/-- A status after a part of a comparison that makes the resource failed if it fails. -/
def Kind.stateAfter (k : Kind Spec Status) (b : Status) : Except ControllerError α → Status
  | .ok _ => b
  | .error _ => k.setState .failed b

/-- A comparison that starts from the status `b` in the world `s` ends with the outcome `r`, the
status `b'` and the world `s'`, after it has asked what stands in `asked`. -/
structure Observes (answer : (q : Query) → σ → q.Answer × σ) (x : Observation Status α) (b : Status)
    (s : σ) (r : Except ControllerError α) (b' : Status) (s' : σ)
    (asked : List (Program.Asked Query.Answer)) : Prop where
  run_eq : Program.run answer (x.run.run b) s = ((r, b'), s')
  trace_eq : Program.trace answer (x.run.run b) s = asked

namespace Observes

variable {answer : (q : Query) → σ → q.Answer × σ} {x : Observation Status α}
  {f : α → Observation Status β} {t : Task α} {k : Kind Spec Status} {b b' b₁ b₂ : Status}
  {s s' s₁ s₂ : σ} {a : α} {e : ControllerError} {r : Except ControllerError β}
  {r' : Except ControllerError α} {asked t₁ t₂ : List (Program.Asked Query.Answer)}

theorem self (answer : (q : Query) → σ → q.Answer × σ) (x : Observation Status α) (b : Status)
    (s : σ) : ∃ r b' s' asked, Observes answer x b s r b' s' asked := ⟨_, _, _, _, rfl, rfl⟩

/-! ## Sequences -/

theorem bind_ok (hx : Observes answer x b s (.ok a) b₁ s₁ t₁)
    (hf : Observes answer (f a) b₁ s₁ r b₂ s₂ t₂) :
    Observes answer (x >>= f) b s r b₂ s₂ (t₁ ++ t₂) := by
  refine ⟨?_, ?_⟩
  · rw [ExceptT.run_bind, StateT.run_bind, Program.bind_eq, Program.run_bind, hx.run_eq]
    exact hf.run_eq
  · rw [ExceptT.run_bind, StateT.run_bind, Program.bind_eq, Program.trace_bind, hx.run_eq,
      hx.trace_eq, ← hf.trace_eq]

theorem bind_error (hx : Observes answer x b s (.error e) b₁ s₁ t₁) :
    Observes answer (x >>= f) b s (.error e) b₁ s₁ t₁ := by
  refine ⟨?_, ?_⟩
  · rw [ExceptT.run_bind, StateT.run_bind, Program.bind_eq, Program.run_bind, hx.run_eq]
    rfl
  · rw [ExceptT.run_bind, StateT.run_bind, Program.bind_eq, Program.trace_bind, hx.run_eq,
      hx.trace_eq]
    exact List.append_nil _

theorem unique (h : Observes answer x b s r' b₁ s₁ t₁) {r'' : Except ControllerError α}
    (h' : Observes answer x b s r'' b₂ s₂ t₂) : r' = r'' ∧ b₁ = b₂ ∧ s₁ = s₂ ∧ t₁ = t₂ := by
  have hr := h.run_eq.symm.trans h'.run_eq
  cases hr
  exact ⟨rfl, rfl, rfl, h.trace_eq.symm.trans h'.trace_eq⟩

theorem bind_inv (h : Observes answer (x >>= f) b s r b' s' asked) :
    (∃ e, r = .error e ∧ Observes answer x b s (.error e) b' s' asked) ∨
      ∃ a b₁ s₁ t₁ t₂, Observes answer x b s (.ok a) b₁ s₁ t₁ ∧
        Observes answer (f a) b₁ s₁ r b' s' t₂ ∧ asked = t₁ ++ t₂ := by
  obtain ⟨rx, b₁, s₁, t₁, hx⟩ := self answer x b s
  rcases rx with e | a
  · obtain ⟨rfl, rfl, rfl, rfl⟩ := hx.bind_error.unique h
    exact .inl ⟨e, rfl, hx⟩
  · obtain ⟨r₂, b₂, s₂, t₂, hf⟩ := self answer (f a) b₁ s₁
    obtain ⟨rfl, rfl, rfl, rfl⟩ := (hx.bind_ok hf).unique h
    exact .inr ⟨a, b₁, s₁, t₁, t₂, hx, hf, rfl⟩

theorem pure_inv (h : Observes answer (pure a) b s r' b' s' asked) :
    r' = .ok a ∧ b' = b ∧ s' = s ∧ asked = [] := by
  have hp : Observes answer (pure a) b s (.ok a) b s [] := ⟨rfl, rfl⟩
  exact h.unique hp

/-! ## Single steps -/

theorem attempt_inv (h : Observes answer (Kind.attempt t) b s r' b' s' asked) :
    Program.Runs answer t s r' s' asked ∧ b' = b := by
  have ha : Observes answer (Kind.attempt t) b s (t.run.run answer s).1 b (t.run.run answer s).2
      (t.run.trace answer s) := by
    refine ⟨?_, ?_⟩
    · change Program.run answer (Program.bind t.run _) s = _
      rw [Program.run_bind]
      rfl
    · change Program.trace answer (Program.bind t.run _) s = _
      rw [Program.trace_bind]
      exact List.append_nil _
  obtain ⟨rfl, rfl, rfl, rfl⟩ := ha.unique h
  exact ⟨.self t s, rfl⟩

theorem orFail_inv (h : Observes answer (k.orFail t) b s r' b' s' asked) :
    Program.Runs answer t s r' s' asked ∧ b' = k.stateAfter b r' := by
  obtain ⟨hr, ht⟩ := h
  change Program.run answer (Program.bind t.run _) s = _ at hr
  change Program.trace answer (Program.bind t.run _) s = _ at ht
  rw [Program.run_bind] at hr
  rw [Program.trace_bind] at ht
  rcases ha : t.run.run answer s with ⟨e | a, s₁⟩ <;> rw [ha] at hr ht <;> cases hr <;>
    exact ⟨⟨ha, (List.append_nil _).symm.trans ht⟩, rfl⟩

theorem orFail_ok (h : Observes answer (k.orFail t) b s (.ok a) b' s' asked) :
    Program.Runs answer t s (.ok a) s' asked ∧ b' = b := h.orFail_inv

theorem orFail_error (h : Observes answer (k.orFail t) b s (.error e) b' s' asked) :
    Program.Runs answer t s (.error e) s' asked ∧ b' = k.setState .failed b := h.orFail_inv

theorem reportOrFail_inv {address : String} {op : Operation}
    {r : Except ControllerError op.Report}
    (h : Observes answer (k.reportOrFail address op) b s r b' s' asked) :
    r = (answer (.call address op) s).1.mapError .agent ∧
      s' = (answer (.call address op) s).2 ∧
      asked = [⟨.call address op, (answer (.call address op) s).1⟩] ∧ b' = k.stateAfter b r := by
  obtain ⟨⟨hr, ht⟩, hb⟩ := h.orFail_inv
  obtain ⟨rfl, rfl⟩ := Prod.mk.inj hr
  exact ⟨rfl, rfl, ht.symm, hb⟩

theorem reportOrFail_ok {address : String} {op : Operation} {x : op.Report}
    (h : Observes answer (k.reportOrFail address op) b s (.ok x) b' s' asked) :
    answer (.call address op) s = (.ok x, s') ∧ asked = [⟨.call address op, .ok x⟩] ∧ b' = b := by
  obtain ⟨hr, rfl, rfl, hb⟩ := h.reportOrFail_inv
  rcases ha : answer (.call address op) s with ⟨e | y, s₁⟩ <;> rw [ha] at hr <;> cases hr
  exact ⟨rfl, rfl, hb⟩

theorem reportOrFail_error {address : String} {op : Operation}
    (h : Observes answer (k.reportOrFail address op) b s (.error e) b' s' asked) :
    ∃ fault, e = .agent fault ∧ answer (.call address op) s = (.error fault, s') ∧
      asked = [⟨.call address op, .error fault⟩] ∧ b' = k.setState .failed b := by
  obtain ⟨hr, rfl, rfl, hb⟩ := h.reportOrFail_inv
  rcases ha : answer (.call address op) s with ⟨fault | y, s₁⟩ <;> rw [ha] at hr <;> cases hr
  exact ⟨fault, rfl, rfl, rfl, hb⟩

theorem convertOrFail_ok {x : Except ConversionError α}
    (h : Observes answer (k.convertOrFail x) b s (.ok a) b' s' asked) :
    x = .ok a ∧ s' = s ∧ asked = [] ∧ b' = b := by
  obtain ⟨⟨hr, ht⟩, hb⟩ := h.orFail_inv
  rcases x with fault | y <;> cases hr
  exact ⟨rfl, rfl, ht.symm, hb⟩

theorem convertOrFail_error {x : Except ConversionError α}
    (h : Observes answer (k.convertOrFail x) b s (.error e) b' s' asked) :
    ∃ fault, x = .error fault ∧ e = .conversion fault ∧ s' = s ∧ asked = [] ∧
      b' = k.setState .failed b := by
  obtain ⟨⟨hr, ht⟩, hb⟩ := h.orFail_inv
  rcases x with fault | y <;> cases hr
  exact ⟨fault, rfl, rfl, rfl, ht.symm, hb⟩

/-! ## Steps and what follows them -/

theorem modify_bind_inv {g : Status → Status} {f : PUnit → Observation Status β}
    (h : Observes answer (modify g >>= f) b s r b' s' asked) :
    Observes answer (f ⟨⟩) (g b) s r b' s' asked := by
  have hm : Observes answer (modify g) b s (.ok ⟨⟩) (g b) s [] := ⟨rfl, rfl⟩
  obtain ⟨r₂, b₂, s₂, t₂, hf⟩ := self answer (f ⟨⟩) (g b) s
  obtain ⟨rfl, rfl, rfl, rfl⟩ := (hm.bind_ok hf).unique h
  exact hf

theorem attempt_bind_inv (h : Observes answer (Kind.attempt t >>= f) b s r b' s' asked) :
    (∃ e, r = .error e ∧ Program.Runs answer t s (.error e) s' asked ∧ b' = b) ∨
      ∃ a s₁ t₁ t₂, Program.Runs answer t s (.ok a) s₁ t₁ ∧
        Observes answer (f a) b s₁ r b' s' t₂ ∧ asked = t₁ ++ t₂ := by
  rcases h.bind_inv with ⟨e, rfl, hx⟩ | ⟨a, b₁, s₁, t₁, t₂, hx, hf, rfl⟩
  · obtain ⟨ht, rfl⟩ := hx.attempt_inv
    exact .inl ⟨e, rfl, ht, rfl⟩
  · obtain ⟨ht, rfl⟩ := hx.attempt_inv
    exact .inr ⟨a, s₁, t₁, t₂, ht, hf, rfl⟩

theorem orFail_bind_inv (h : Observes answer (k.orFail t >>= f) b s r b' s' asked) :
    (∃ e, r = .error e ∧ Program.Runs answer t s (.error e) s' asked ∧
        b' = k.setState .failed b) ∨
      ∃ a s₁ t₁ t₂, Program.Runs answer t s (.ok a) s₁ t₁ ∧
        Observes answer (f a) b s₁ r b' s' t₂ ∧ asked = t₁ ++ t₂ := by
  rcases h.bind_inv with ⟨e, rfl, hx⟩ | ⟨a, _, s₁, t₁, t₂, hx, hf, rfl⟩
  · obtain ⟨ht, rfl⟩ := hx.orFail_error
    exact .inl ⟨e, rfl, ht, rfl⟩
  · obtain ⟨ht, rfl⟩ := hx.orFail_ok
    exact .inr ⟨a, s₁, t₁, t₂, ht, hf, rfl⟩

/-- A call fails and makes the resource failed, or the comparison goes on with its report. -/
theorem reportOrFail_bind_inv {address : String} {op : Operation}
    {f : op.Report → Observation Status β}
    (h : Observes answer (k.reportOrFail address op >>= f) b s r b' s' asked) :
    (∃ e, r = .error (.agent e) ∧ answer (.call address op) s = (.error e, s') ∧
        asked = [⟨.call address op, .error e⟩] ∧ b' = k.setState .failed b) ∨
      ∃ x s₁ t₁, answer (.call address op) s = (.ok x, s₁) ∧
        Observes answer (f x) b s₁ r b' s' t₁ ∧ asked = ⟨.call address op, .ok x⟩ :: t₁ := by
  rcases h.bind_inv with ⟨e, rfl, hx⟩ | ⟨x, _, s₁, _, t₂, hx, hf, rfl⟩
  · obtain ⟨fault, rfl, hr, rfl, rfl⟩ := hx.reportOrFail_error
    exact .inl ⟨fault, rfl, hr, rfl, rfl⟩
  · obtain ⟨hr, rfl, rfl⟩ := hx.reportOrFail_ok
    exact .inr ⟨x, s₁, t₂, hr, hf, rfl⟩

theorem convertOrFail_bind_inv {x : Except ConversionError α}
    (h : Observes answer (k.convertOrFail x >>= f) b s r b' s' asked) :
    (∃ e, x = .error e ∧ r = .error (.conversion e) ∧ s' = s ∧ asked = [] ∧
        b' = k.setState .failed b) ∨
      ∃ a, x = .ok a ∧ Observes answer (f a) b s r b' s' asked := by
  rcases h.bind_inv with ⟨e, rfl, hx⟩ | ⟨a, _, s₁, _, t₂, hx, hf, rfl⟩
  · obtain ⟨fault, hr, rfl, rfl, rfl, rfl⟩ := hx.convertOrFail_error
    exact .inl ⟨fault, hr, rfl, rfl, rfl, rfl⟩
  · obtain ⟨hr, rfl, rfl, rfl⟩ := hx.convertOrFail_ok
    exact .inr ⟨a, hr, hf⟩

end Observes

/-! ## What is asked -/

/-- Whatever a program that may fail is answered, it asks only what satisfies `P`. -/
abbrev TaskAsks (P : Query → Prop) (t : Task α) : Prop :=
  Program.Within P (Program.Fails fun _ => True) t.run

/-- Whatever a comparison is answered, it asks only what satisfies `P`. -/
def Asks (P : Query → Prop) (x : Observation Status α) : Prop :=
  ∀ b, Program.Within P (fun _ => True) (x.run.run b)

namespace Observes

variable {P : Query → Prop} {answer : (q : Query) → σ → q.Answer × σ} {x : Observation Status α}
  {b b' : Status} {s s' : σ} {r : Except ControllerError α}
  {asked : List (Program.Asked Query.Answer)}

theorem within (h : Observes answer x b s r b' s' asked) (hx : Asks P x) : ∀ a ∈ asked, P a.1 := by
  have hmem : ∀ a ∈ Program.trace answer (x.run.run b) s, P a.1 := Program.trace_within (hx b) s
  rwa [h.trace_eq] at hmem

theorem keeps {τ : Type} (h : Observes answer x b s r b' s' asked) (view : σ → τ)
    (hP : ∀ q s, P q → view (answer q s).2 = view s) (hx : Asks P x) : view s' = view s := by
  have hkept := Program.run_keeps view hP (hx b) s
  rwa [h.run_eq] at hkept

end Observes

namespace Asks

variable {P : Query → Prop} {x : Observation Status α} {f : α → Observation Status β} {t : Task α}
  {k : Kind Spec Status}

theorem mono {P' : Query → Prop} (h : ∀ q, P q → P' q) (hx : Asks P x) : Asks P' x :=
  fun b => (hx b).mono h

theorem pure (a : α) : Asks P (pure a : Observation Status α) := fun _ => .done trivial

theorem modify (g : Status → Status) : Asks P (modify g : Observation Status PUnit) :=
  fun _ => .done trivial

theorem bind (hx : Asks P x) (hf : ∀ a, Asks P (f a)) : Asks P (x >>= f) := fun b =>
  (hx b).andThen fun r _ => match r with
    | (.ok a, b) => hf a b
    | (.error _, _) => .done trivial

theorem attempt (ht : TaskAsks P t) : Asks P (Kind.attempt t : Observation Status α) := fun _ =>
  ht.andThen fun _ _ => .done trivial

theorem orFail (ht : TaskAsks P t) : Asks P (k.orFail t) := fun _ =>
  ht.andThen fun r _ => match r with
    | .ok _ => .done trivial
    | .error _ => .done trivial

theorem reportOrFail {address : String} {op : Operation} (hq : P (.call address op)) :
    Asks P (k.reportOrFail address op) :=
  orFail (.ask hq fun _ => .outcome _)

theorem convertOrFail (x : Except ConversionError α) : Asks P (k.convertOrFail x) :=
  orFail (.outcome _)

theorem convertOrFail_bind {x : Except ConversionError α} (hf : ∀ a, x = .ok a → Asks P (f a)) :
    Asks P (k.convertOrFail x >>= f) := by
  rcases x with e | a
  · exact fun _ => .done trivial
  · exact hf a rfl

end Asks

end SwitchFleet.Controller
