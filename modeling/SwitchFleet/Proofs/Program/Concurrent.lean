import Mathlib.Logic.Function.Basic
import SwitchFleet.Proofs.Program.Trace

/-!
# Programs side by side

Several programs go on at the same time in one world. At every moment any one of them may ask its next
question, and nothing is assumed about which of them does.

* `Program.Answered`: what is left of a program after certain questions, whoever answered them.
  `Ends`: the program is at its end. There is one inversion for each way to build a program that may
  fail (`Ends.bind_inv`, `Ends.tryCatch_inv`, …).
* `Program.Concurrent`: the programs, the world, and the questions so far, after any interleaving.
* `own`: what one of the programs asked. **`Concurrent.answered`**: each program is where its own
  questions have led it.
* `Concurrent.keeps`: what every step keeps, every interleaving keeps.
* `play`: an interleaving that is carried out turn by turn. `concurrent_play`: it is one.
  `concurrent_run`: so is a program that runs to its end without interruption.
-/

namespace SwitchFleet.Program

variable {Q : Type} {R : Q → Type} {α β ε ι σ τ : Type}

/-! ## Programs that were answered -/

/-- What is left of a program after it asked what stands in a list. -/
inductive Answered : Program Q R α → List (Asked R) → Program Q R α → Prop where
  | nothing (p : Program Q R α) : Answered p [] p
  | ask {q : Q} {next : R q → Program Q R α} {r : R q} {t : List (Asked R)} {p' : Program Q R α} :
    Answered (next r) t p' → Answered (.ask q next) (⟨q, r⟩ :: t) p'

/-- A program ends with `a` after it asked what stands in a list. -/
abbrev Ends (p : Program Q R α) (t : List (Asked R)) (a : α) : Prop := Answered p t (.done a)

theorem Answered.concat {p : Program Q R α} {q : Q} {next : R q → Program Q R α}
    {t : List (Asked R)} (h : Answered p t (.ask q next)) (r : R q) :
    Answered p (t ++ [⟨q, r⟩]) (next r) := by
  generalize hp : Program.ask q next = p' at h
  induction h with
  | nothing p =>
    subst hp
    exact .ask (.nothing _)
  | ask _ ih => exact .ask (ih hp)

namespace Ends

variable {x : ExceptT ε (Program Q R) α} {f : α → ExceptT ε (Program Q R) β}
  {g : ε → ExceptT ε (Program Q R) α} {t : List (Asked R)}

theorem done_inv {a b : α} (h : Ends (.done a : Program Q R α) t b) : b = a ∧ t = [] := by
  cases h
  exact ⟨rfl, rfl⟩

theorem andThen_inv {p : Program Q R α} {f : α → Program Q R β} {b : β}
    (h : Ends (p.bind f) t b) :
    ∃ a t₁ t₂, Ends p t₁ a ∧ Ends (f a) t₂ b ∧ t = t₁ ++ t₂ := by
  induction p generalizing t with
  | done a => exact ⟨a, [], t, .nothing _, h, rfl⟩
  | ask q next ih =>
    cases h with
    | @ask _ _ r t _ h =>
      obtain ⟨a, t₁, t₂, hp, hf, rfl⟩ := ih r h
      exact ⟨a, ⟨q, r⟩ :: t₁, t₂, .ask hp, hf, rfl⟩

theorem query_inv {q : Q} {r : Except ε (R q)}
    (h : Ends (ExceptT.lift (Program.query q) : ExceptT ε (Program Q R) (R q)).run t r) :
    ∃ a, r = .ok a ∧ t = [⟨q, a⟩] := by
  cases h with
  | @ask _ _ a _ _ h =>
    obtain ⟨rfl, rfl⟩ := done_inv h
    exact ⟨a, rfl, rfl⟩

theorem bind_inv {r : Except ε β} (h : Ends (x >>= f).run t r) :
    (∃ e, r = .error e ∧ Ends x.run t (.error e)) ∨
      ∃ a t₁ t₂, Ends x.run t₁ (.ok a) ∧ Ends (f a).run t₂ r ∧ t = t₁ ++ t₂ := by
  obtain ⟨e | a, t₁, t₂, hx, hf, rfl⟩ := andThen_inv h
  · obtain ⟨rfl, rfl⟩ := done_inv hf
    rw [List.append_nil]
    exact .inl ⟨e, rfl, hx⟩
  · exact .inr ⟨a, t₁, t₂, hx, hf, rfl⟩

theorem tryCatch_inv {r : Except ε α} (h : Ends (tryCatch x g).run t r) :
    (∃ a, r = .ok a ∧ Ends x.run t (.ok a)) ∨
      ∃ e t₁ t₂, Ends x.run t₁ (.error e) ∧ Ends (g e).run t₂ r ∧ t = t₁ ++ t₂ := by
  obtain ⟨e | a, t₁, t₂, hx, hf, rfl⟩ := andThen_inv h
  · exact .inr ⟨e, t₁, t₂, hx, hf, rfl⟩
  · obtain ⟨rfl, rfl⟩ := done_inv hf
    rw [List.append_nil]
    exact .inl ⟨a, rfl, hx⟩

end Ends

/-! ## Interleavings -/

/-- What one of several programs did. -/
def own [DecidableEq ι] (i : ι) (log : List (ι × β)) : List β :=
  log.filterMap fun e => if e.1 = i then some e.2 else none

section

variable [DecidableEq ι]

@[simp] theorem own_nil (i : ι) : own i ([] : List (ι × β)) = [] := rfl

@[simp] theorem own_append (i : ι) (l l' : List (ι × β)) :
    own i (l ++ l') = own i l ++ own i l' := List.filterMap_append

@[simp] theorem own_cons_self (i : ι) (b : β) (l : List (ι × β)) :
    own i ((i, b) :: l) = b :: own i l := by simp [own]

theorem own_cons_of_ne {i j : ι} (h : j ≠ i) (b : β) (l : List (ι × β)) :
    own i ((j, b) :: l) = own i l := by simp [own, h]

theorem mem_own {i : ι} {b : β} {l : List (ι × β)} : b ∈ own i l ↔ (i, b) ∈ l := by
  simp only [own, List.mem_filterMap, Option.ite_none_right_eq_some, Option.some.injEq]
  exact ⟨fun ⟨⟨_, _⟩, hm, hi, hb⟩ => hi ▸ hb ▸ hm, fun hm => ⟨_, hm, rfl, rfl⟩⟩

/-- Programs side by side: what is left of them, the world, and the questions so far, the first one
first. `Step i s q r s'` holds if program `i` may be answered `r` when it asks `q` in the world `s`,
which is `s'` afterwards. -/
inductive Concurrent (Step : ι → σ → (q : Q) → R q → σ → Prop) (start : ι → Program Q R α) (s₀ : σ) :
    (ι → Program Q R α) → σ → List (ι × Asked R) → Prop where
  | start : Concurrent Step start s₀ start s₀ []
  | step {p : ι → Program Q R α} {s s' : σ} {log : List (ι × Asked R)} {i : ι} {q : Q}
    {next : R q → Program Q R α} {r : R q} (h : Concurrent Step start s₀ p s log)
    (hp : p i = .ask q next) (hs : Step i s q r s') :
    Concurrent Step start s₀ (Function.update p i (next r)) s' (log ++ [(i, ⟨q, r⟩)])

variable {Step : ι → σ → (q : Q) → R q → σ → Prop} {start : ι → Program Q R α} {s₀ s : σ}
  {p : ι → Program Q R α} {log : List (ι × Asked R)}

namespace Concurrent

/-- **Each program goes its own way**: it is where its own questions have led it. -/
theorem answered (h : Concurrent Step start s₀ p s log) (i : ι) :
    Answered (start i) (own i log) (p i) := by
  induction h with
  | start => exact .nothing _
  | @step p _ _ log j q next r _ hp _ ih =>
    rw [own_append]
    by_cases hj : j = i
    · subst hj
      rw [Function.update_self, own_cons_self]
      rw [hp] at ih
      exact ih.concat r
    · rw [Function.update_of_ne fun h => hj h.symm, own_cons_of_ne hj, own_nil, List.append_nil]
      exact ih

/-- **What every step keeps** holds after every interleaving, and what holds of every single step then
holds of all that was asked. -/
theorem keeps {I : σ → Prop} {P : Asked R → Prop} (h : Concurrent Step start s₀ p s log)
    (h₀ : I s₀) (hstep : ∀ i s q r s', I s → Step i s q r s' → I s' ∧ P ⟨q, r⟩) :
    I s ∧ ∀ e ∈ log, P e.2 := by
  induction h with
  | start => exact ⟨h₀, fun _ he => absurd he List.not_mem_nil⟩
  | step _ _ hs ih =>
    obtain ⟨hi, hq⟩ := hstep _ _ _ _ _ ih.1 hs
    refine ⟨hi, List.forall_mem_append.mpr ⟨ih.2, List.forall_mem_singleton.mpr hq⟩⟩

end Concurrent

/-! ## Interleavings that are carried out -/

/-- One turn of program `i`, if it has a question that is answered now. -/
def turn (answer : ι → (q : Q) → σ → Option (R q × σ)) (i : ι)
    (c : (ι → Program Q R α) × σ × List (ι × Asked R)) :
    (ι → Program Q R α) × σ × List (ι × Asked R) :=
  match c.1 i with
  | .done _ => c
  | .ask q next =>
    match answer i q c.2.1 with
    | none => c
    | some (r, s) => (Function.update c.1 i (next r), s, c.2.2 ++ [(i, ⟨q, r⟩)])

/-- Several turns, one after the other. -/
def play (answer : ι → (q : Q) → σ → Option (R q × σ)) (turns : List ι)
    (c : (ι → Program Q R α) × σ × List (ι × Asked R)) :
    (ι → Program Q R α) × σ × List (ι × Asked R) :=
  turns.foldl (fun c i => turn answer i c) c

variable {answer : ι → (q : Q) → σ → Option (R q × σ)}

theorem concurrent_turn (hanswer : ∀ i q s r s', answer i q s = some (r, s') → Step i s q r s')
    (h : Concurrent Step start s₀ p s log) (i : ι) :
    let c := turn answer i (p, s, log)
    Concurrent Step start s₀ c.1 c.2.1 c.2.2 := by
  unfold turn
  cases hp : p i with
  | done a => simpa [hp] using h
  | ask q next =>
    cases hr : answer i q s with
    | none => simpa [hp, hr] using h
    | some r => simpa [hp, hr] using h.step hp (hanswer _ _ _ _ _ hr)

theorem concurrent_play (hanswer : ∀ i q s r s', answer i q s = some (r, s') → Step i s q r s')
    (h : Concurrent Step start s₀ p s log) (turns : List ι) :
    let c := play answer turns (p, s, log)
    Concurrent Step start s₀ c.1 c.2.1 c.2.2 := by
  induction turns generalizing p s log with
  | nil => exact h
  | cons i turns ih => exact ih (concurrent_turn hanswer h i)

/-- A program that is not interrupted does what it does alone, in a world of which the others see a
part. -/
theorem concurrent_run {answer : (q : Q) → τ → R q × τ} (view : τ → σ) {P : Asked R → Prop} {i : ι}
    (hstep : ∀ q w, P ⟨q, (answer q w).1⟩ →
      Step i (view w) q (answer q w).1 (view (answer q w).2))
    {x : Program Q R α} (hx : p i = x) {w : τ} (hP : ∀ e ∈ trace answer x w, P e)
    (h : Concurrent Step start s₀ p (view w) log) :
    Concurrent Step start s₀ (Function.update p i (.done (run answer x w).1))
      (view (run answer x w).2) (log ++ (trace answer x w).map fun e => (i, e)) := by
  induction x generalizing p w log with
  | done b =>
    have hself : Function.update p i (.done b) = p := by rw [← hx, Function.update_eq_self]
    simpa [hself] using h
  | ask q next ih =>
    obtain ⟨hq, hP⟩ := List.forall_mem_cons.mp hP
    have hnext := ih _ (Function.update_self ..) hP (h.step hx (hstep q w hq))
    rw [Function.update_idem] at hnext
    simpa using hnext

end

end SwitchFleet.Program
