import SwitchFleet.Program

/-!
# What a program asks

* `Program.trace`: the questions of a run with their answers, first one first. `Program.visited`: the
  questions with the worlds that they were asked in. `visited_of_mem_trace`: these have one in common.
* `trace_bind`: a sequence of programs asks in sequence.
* `Program.Runs`: a program that may fail ends with an outcome after certain questions. There is one
  rule for each way to build such a program, and `Runs.bind_inv` takes a sequence apart.
* `Program.Within`: what a program may ask and end with, whatever it is answered. `trace_within`,
  `run_ends`: what it asked and ended with is of that kind.
* **`visited_preserves`**: what the questions of a run preserve holds all along. **`run_keeps`**: what
  they leave alone is the same at the end.
* `run_of_visited`: what a question brings about and the others preserve holds at the end.
* `run_foldl`: what a run changes, computed from its questions. **`run_alike`**: a program cannot tell
  worlds apart that answer alike.
* `Program.Remains`: what is left of a value after others were written. **`run_remains`**: a program
  leaves what it wrote last.
-/

namespace SwitchFleet.Program

variable {Q : Type} {R : Q → Type} {α β ε σ τ : Type}

/-- A question with its answer. -/
abbrev Asked (R : Q → Type) : Type := Σ q, R q

/-- The questions of a run with their answers, first one first. -/
def trace (answer : (q : Q) → σ → R q × σ) : Program Q R α → σ → List (Asked R)
  | .done _, _ => []
  | .ask q next, s => ⟨q, (answer q s).1⟩ :: trace answer (next (answer q s).1) (answer q s).2

section

variable (answer : (q : Q) → σ → R q × σ)

@[simp] theorem trace_done (a : α) (s : σ) :
    trace answer (.done a : Program Q R α) s = [] := rfl

@[simp] theorem trace_ask (q : Q) (next : R q → Program Q R α) (s : σ) :
    trace answer (.ask q next) s =
      ⟨q, (answer q s).1⟩ :: trace answer (next (answer q s).1) (answer q s).2 := rfl

@[simp] theorem trace_bind (p : Program Q R α) (f : α → Program Q R β) (s : σ) :
    trace answer (p.bind f) s =
      trace answer p s ++ trace answer (f (run answer p s).1) (run answer p s).2 := by
  induction p generalizing s with
  | done a => rfl
  | ask q next ih => simp [ih]

/-- The questions of a run, each with the world that it was asked in, first one first. -/
def visited : Program Q R α → σ → List (Q × σ)
  | .done _, _ => []
  | .ask q next, s => (q, s) :: visited (next (answer q s).1) (answer q s).2

theorem trace_eq_map_visited (p : Program Q R α) (s : σ) :
    trace answer p s = (visited answer p s).map fun v => ⟨v.1, (answer v.1 v.2).1⟩ := by
  induction p generalizing s with
  | done a => rfl
  | ask q next ih => simp [visited, ih]

variable {answer} in
theorem visited_of_mem_trace {p : Program Q R α} {s : σ} {q : Q} {r : R q}
    (h : ⟨q, r⟩ ∈ trace answer p s) : ∃ s', (q, s') ∈ visited answer p s ∧ (answer q s').1 = r := by
  rw [trace_eq_map_visited] at h
  obtain ⟨⟨q', s'⟩, hv, he⟩ := List.mem_map.mp h
  obtain ⟨rfl, hr⟩ := Sigma.mk.inj he
  exact ⟨s', hv, eq_of_heq hr⟩

/-! ## Programs that may fail -/

/-- A program that may fail, run in the world `s`, ends with the outcome `r` in the world `s'` after
it has asked what stands in `asked`. -/
structure Runs (x : ExceptT ε (Program Q R) α) (s : σ) (r : Except ε α) (s' : σ)
    (asked : List (Asked R)) : Prop where
  run_eq : run answer x.run s = (r, s')
  trace_eq : trace answer x.run s = asked

end

namespace Runs

variable {answer : (q : Q) → σ → R q × σ} {x : ExceptT ε (Program Q R) α}
  {f : α → ExceptT ε (Program Q R) β} {g : ε → ExceptT ε (Program Q R) α}
  {s s₁ s₂ : σ} {a : α} {e : ε} {r : Except ε β} {r' : Except ε α} {t₁ t₂ : List (Asked R)}

theorem self (x : ExceptT ε (Program Q R) α) (s : σ) :
    Runs answer x s (run answer x.run s).1 (run answer x.run s).2 (trace answer x.run s) :=
  ⟨rfl, rfl⟩

theorem pure (a : α) (s : σ) :
    Runs answer (Pure.pure a : ExceptT ε (Program Q R) α) s (.ok a) s [] := ⟨rfl, rfl⟩

theorem throw (e : ε) (s : σ) :
    Runs answer (MonadExcept.throw e : ExceptT ε (Program Q R) α) s (.error e) s [] := ⟨rfl, rfl⟩

theorem query (answer : (q : Q) → σ → R q × σ) (q : Q) (s : σ) :
    Runs answer (ExceptT.lift (Program.query q) : ExceptT ε (Program Q R) (R q)) s
      (.ok (answer q s).1) (answer q s).2 [⟨q, (answer q s).1⟩] := ⟨rfl, rfl⟩

theorem bind_ok (hx : Runs answer x s (.ok a) s₁ t₁) (hf : Runs answer (f a) s₁ r s₂ t₂) :
    Runs answer (x >>= f) s r s₂ (t₁ ++ t₂) := by
  refine ⟨?_, ?_⟩
  · rw [ExceptT.run_bind, bind_eq, run_bind, hx.run_eq]
    exact hf.run_eq
  · rw [ExceptT.run_bind, bind_eq, trace_bind, hx.run_eq, hx.trace_eq, ← hf.trace_eq]

theorem bind_error (hx : Runs answer x s (.error e) s₁ t₁) :
    Runs answer (x >>= f) s (.error e) s₁ t₁ := by
  refine ⟨?_, ?_⟩
  · rw [ExceptT.run_bind, bind_eq, run_bind, hx.run_eq]
    rfl
  · rw [ExceptT.run_bind, bind_eq, trace_bind, hx.run_eq, hx.trace_eq]
    exact List.append_nil _

theorem bind_pure {g : α → β} (hx : Runs answer x s (.ok a) s₁ t₁) :
    Runs answer (x >>= fun a => Pure.pure (g a)) s (.ok (g a)) s₁ t₁ := by
  have h := hx.bind_ok (f := fun a => Pure.pure (g a)) (.pure (g a) s₁)
  rwa [List.append_nil] at h

theorem bind_throw {g : α → ε} (hx : Runs answer x s (.ok a) s₁ t₁) :
    Runs answer (x >>= fun a => (MonadExcept.throw (g a) : ExceptT ε (Program Q R) β)) s
      (.error (g a)) s₁ t₁ := by
  have h := hx.bind_ok (f := fun a => (MonadExcept.throw (g a) : ExceptT ε (Program Q R) β))
    (.throw (g a) s₁)
  rwa [List.append_nil] at h

theorem ite_pos {c : Prop} [Decidable c] {y : ExceptT ε (Program Q R) α} (hc : c)
    (hx : Runs answer x s r' s₁ t₁) : Runs answer (if c then x else y) s r' s₁ t₁ := by
  rw [if_pos hc]
  exact hx

theorem ite_neg {c : Prop} [Decidable c] {y : ExceptT ε (Program Q R) α} (hc : ¬ c)
    (hy : Runs answer y s r' s₁ t₁) : Runs answer (if c then x else y) s r' s₁ t₁ := by
  rw [if_neg hc]
  exact hy

theorem tryCatch_ok (hx : Runs answer x s (.ok a) s₁ t₁) :
    Runs answer (tryCatch x g) s (.ok a) s₁ t₁ := by
  refine ⟨?_, ?_⟩
  · change run answer (Program.bind x.run _) s = _
    rw [run_bind, hx.run_eq]
    rfl
  · change trace answer (Program.bind x.run _) s = _
    rw [trace_bind, hx.run_eq, hx.trace_eq]
    exact List.append_nil _

theorem tryCatch_error (hx : Runs answer x s (.error e) s₁ t₁)
    (hg : Runs answer (g e) s₁ r' s₂ t₂) : Runs answer (tryCatch x g) s r' s₂ (t₁ ++ t₂) := by
  refine ⟨?_, ?_⟩
  · change run answer (Program.bind x.run _) s = _
    rw [run_bind, hx.run_eq]
    exact hg.run_eq
  · change trace answer (Program.bind x.run _) s = _
    rw [trace_bind, hx.run_eq, hx.trace_eq, ← hg.trace_eq]
    rfl

theorem bind_inv {t : List (Asked R)} (h : Runs answer (x >>= f) s r s₂ t) :
    (∃ e, r = .error e ∧ Runs answer x s (.error e) s₂ t) ∨
      ∃ a s₁ t₁ t₂, Runs answer x s (.ok a) s₁ t₁ ∧ Runs answer (f a) s₁ r s₂ t₂ ∧ t = t₁ ++ t₂ := by
  obtain ⟨hr, ht⟩ := h
  rcases hx : run answer x.run s with ⟨e | a, s₁⟩
  · have he := bind_error (f := f) ⟨hx, rfl⟩
    obtain ⟨rfl, rfl⟩ := Prod.mk.inj (he.run_eq.symm.trans hr)
    exact .inl ⟨e, rfl, hx, he.trace_eq.symm.trans ht⟩
  · have hok := bind_ok ⟨hx, rfl⟩ (self (f a) s₁)
    rw [hok.run_eq] at hr
    exact .inr ⟨a, s₁, _, _, ⟨hx, rfl⟩, ⟨hr, rfl⟩, ht.symm.trans hok.trace_eq⟩

theorem bind_ok_inv {b : β} {t : List (Asked R)} (h : Runs answer (x >>= f) s (.ok b) s₂ t) :
    ∃ a s₁ t₁ t₂, Runs answer x s (.ok a) s₁ t₁ ∧ Runs answer (f a) s₁ (.ok b) s₂ t₂ := by
  rcases h.bind_inv with ⟨e, he, -⟩ | ⟨a, s₁, t₁, t₂, hx, hf, -⟩
  · nomatch he
  · exact ⟨a, s₁, t₁, t₂, hx, hf⟩

theorem pure_inv {t : List (Asked R)}
    (h : Runs answer (Pure.pure a : ExceptT ε (Program Q R) α) s r' s₁ t) :
    r' = .ok a ∧ s₁ = s ∧ t = [] := by
  obtain ⟨hr, rfl⟩ := h
  cases hr
  exact ⟨rfl, rfl, rfl⟩

theorem bind_pure_inv {b : β} {t : List (Asked R)}
    (h : Runs answer (x >>= fun _ => Pure.pure b) s r s₂ t) :
    ∃ r', Runs answer x s r' s₂ t ∧ r = r'.map fun _ => b := by
  rcases h.bind_inv with ⟨e, rfl, hx⟩ | ⟨a, s₁, t₁, t₂, hx, hf, rfl⟩
  · exact ⟨_, hx, rfl⟩
  · obtain ⟨rfl, rfl, rfl⟩ := hf.pure_inv
    rw [List.append_nil]
    exact ⟨_, hx, rfl⟩

theorem lift_inv {r : Except ε α} {t : List (Asked R)}
    (h : Runs answer (liftM r : ExceptT ε (Program Q R) α) s r' s₁ t) :
    r' = r ∧ s₁ = s ∧ t = [] := by
  obtain ⟨hr, rfl⟩ := h
  cases hr
  exact ⟨rfl, rfl, rfl⟩

end Runs

/-! ## What a program may do -/

/-- Whatever a program is answered, it asks only what satisfies `P` and ends with what satisfies
`E`. -/
inductive Within (P : Q → Prop) (E : α → Prop) : Program Q R α → Prop where
  | done {a : α} : E a → Within P E (.done a)
  | ask {q : Q} {next : R q → Program Q R α} :
    P q → (∀ r, Within P E (next r)) → Within P E (.ask q next)

/-- An outcome that is a success, or a failure that satisfies `E`. -/
def Fails (E : ε → Prop) : Except ε α → Prop
  | .ok _ => True
  | .error e => E e

namespace Within

variable {P : Q → Prop} {E : ε → Prop}

theorem any (p : Program Q R α) : Within (fun _ => True) (fun _ => True) p := by
  induction p with
  | done a => exact .done trivial
  | ask q next ih => exact .ask trivial ih

theorem mono {P' : Q → Prop} {F : α → Prop} {p : Program Q R α} (h : ∀ q, P q → P' q)
    (hp : Within P F p) : Within P' F p := by
  induction hp with
  | done ha => exact .done ha
  | ask hq _ ih => exact .ask (h _ hq) ih

theorem andThen {F : α → Prop} {G : β → Prop} {p : Program Q R α} {f : α → Program Q R β}
    (hp : Within P F p) (hf : ∀ a, F a → Within P G (f a)) : Within P G (p.bind f) := by
  induction hp with
  | done ha => exact hf _ ha
  | ask hq _ ih => exact .ask hq ih

theorem outcome (r : Except ε α) :
    Within P (Fails fun _ => True) (ExceptT.mk (.done r) : ExceptT ε (Program Q R) α).run :=
  .done (match r with
    | .ok _ => trivial
    | .error _ => trivial)

theorem pure (a : α) : Within P (Fails E) (Pure.pure a : ExceptT ε (Program Q R) α).run :=
  .done trivial

theorem throw {e : ε} (he : E e) :
    Within P (Fails E) (MonadExcept.throw e : ExceptT ε (Program Q R) α).run := .done he

theorem query {q : Q} (hq : P q) :
    Within P (Fails E) (ExceptT.lift (Program.query q) : ExceptT ε (Program Q R) (R q)).run :=
  .ask hq fun _ => .done trivial

theorem bind {x : ExceptT ε (Program Q R) α} {f : α → ExceptT ε (Program Q R) β}
    (hx : Within P (Fails E) x.run) (hf : ∀ a, Within P (Fails E) (f a).run) :
    Within P (Fails E) (x >>= f).run :=
  hx.andThen fun r hr => match r with
    | .ok a => hf a
    | .error _ => .done hr

theorem tryCatch {x : ExceptT ε (Program Q R) α} {g : ε → ExceptT ε (Program Q R) α}
    (hx : Within P (Fails E) x.run) (hg : ∀ e, E e → Within P (Fails E) (g e).run) :
    Within P (Fails E) (tryCatch x g).run :=
  hx.andThen fun r hr => match r with
    | .ok _ => .done trivial
    | .error e => hg e hr

end Within

variable {P : Q → Prop} {E : α → Prop} {p : Program Q R α} {answer : (q : Q) → σ → R q × σ}

theorem trace_within (hp : Within P E p) (s : σ) : ∀ a ∈ trace answer p s, P a.1 := by
  induction hp generalizing s with
  | done _ => exact fun _ ha => absurd ha List.not_mem_nil
  | ask hq _ ih => exact List.forall_mem_cons.mpr ⟨hq, ih _ _⟩

section

variable {s : σ} (I : σ → Prop) (hI : ∀ q s, P q → I s → I (answer q s).2)
  (hP : ∀ a ∈ trace answer p s, P a.1) (hs : I s)

include hI hP hs

/-- **Invariants.** What every question of `P` preserves holds whenever a run that asks nothing else asks
a question, and at its end. -/
theorem visited_preserves : (∀ v ∈ visited answer p s, I v.2) ∧ I (run answer p s).2 := by
  induction p generalizing s with
  | done a => exact ⟨fun _ hv => absurd hv List.not_mem_nil, hs⟩
  | ask q next ih =>
    obtain ⟨hq, hnext⟩ := List.forall_mem_cons.mp hP
    obtain ⟨hvisited, hend⟩ := ih _ hnext (hI q s hq hs)
    exact ⟨List.forall_mem_cons.mpr ⟨hs, hvisited⟩, hend⟩

theorem run_preserves : I (run answer p s).2 := (visited_preserves I hI hP hs).2

end

/-- **What a question brings about** holds at the end of a run, if every question of `P` preserves it and
the run asks nothing else. -/
theorem run_of_visited {J : σ → Prop} (hJ : ∀ q s, P q → J s → J (answer q s).2) {s : σ}
    (hP : ∀ a ∈ trace answer p s, P a.1) {v : Q × σ} (hv : v ∈ visited answer p s)
    (h : J (answer v.1 v.2).2) : J (run answer p s).2 := by
  induction p generalizing s with
  | done a => exact absurd hv List.not_mem_nil
  | ask q next ih =>
    obtain ⟨-, hnext⟩ := List.forall_mem_cons.mp hP
    rcases List.mem_cons.mp hv with rfl | hv
    · exact run_preserves (p := next (answer q s).1) J hJ hnext h
    · exact ih _ hnext hv

theorem Runs.preserves {x : ExceptT ε (Program Q R) α} {s s' : σ} {r : Except ε α}
    {asked : List (Asked R)} (h : Runs answer x s r s' asked) (I : σ → Prop)
    (hI : ∀ q s, P q → I s → I (answer q s).2) (hP : ∀ a ∈ asked, P a.1) (hs : I s) : I s' := by
  have hend := run_preserves I hI (p := x.run) (by rwa [h.trace_eq]) hs
  rwa [h.run_eq] at hend

/-- **What is left alone is kept.** What no answer to a question of `P` changes is the same after a
program that asks nothing else. -/
theorem run_keeps (view : σ → τ) (hP : ∀ q s, P q → view (answer q s).2 = view s)
    (hp : Within P E p) (s : σ) : view (run answer p s).2 = view s :=
  run_preserves (fun t => view t = view s) (fun q t hq ht => (hP q t hq).trans ht)
    (trace_within hp s) rfl

theorem Runs.within {x : ExceptT ε (Program Q R) α} {s s' : σ} {r : Except ε α}
    {asked : List (Asked R)} {F : Except ε α → Prop} (h : Runs answer x s r s' asked)
    (hx : Within P F x.run) : ∀ a ∈ asked, P a.1 := by
  have hmem : ∀ a ∈ trace answer x.run s, P a.1 := trace_within hx s
  rwa [h.trace_eq] at hmem

theorem run_ends (hp : Within P E p) (s : σ) : E (run answer p s).1 := by
  induction hp generalizing s with
  | done ha => exact ha
  | ask _ _ ih => exact ih _ _

/-- What a run changes follows from its questions and their answers, if this is so for single questions. -/
theorem run_foldl (view : σ → τ) (change : τ → Asked R → τ)
    (hchange : ∀ q s, P q → view (answer q s).2 = change (view s) ⟨q, (answer q s).1⟩)
    (hp : Within P E p) (s : σ) :
    view (run answer p s).2 = (trace answer p s).foldl change (view s) := by
  induction hp generalizing s with
  | done _ => rfl
  | @ask q next hq _ ih =>
    rw [run_ask, trace_ask, List.foldl_cons, ← hchange q s hq]
    exact ih _ _

/-- **Worlds that answer alike.** A program cannot tell two worlds apart if they answer everything that it
may ask alike. -/
theorem run_alike {L : σ → σ → Prop} (hp : Within P E p)
    (hL : ∀ q s s', P q → L s s' →
      (answer q s).1 = (answer q s').1 ∧ L (answer q s).2 (answer q s').2) {s s' : σ} (hs : L s s') :
    (run answer p s).1 = (run answer p s').1 ∧ L (run answer p s).2 (run answer p s').2 ∧
      trace answer p s = trace answer p s' := by
  induction hp generalizing s s' with
  | done _ => exact ⟨rfl, hs, rfl⟩
  | @ask q next hq _ ih =>
    obtain ⟨hr, hL'⟩ := hL q s s' hq hs
    obtain ⟨hrun, hend, htrace⟩ := ih (answer q s).1 hL'
    rw [run_ask, run_ask, trace_ask, trace_ask, ← hr]
    exact ⟨hrun, hend, congrArg _ htrace⟩

/-! ## What is written last -/

/-- What is left of a value that may go away after other values were written: nothing, or the last of
these values, or the value itself if there is none. -/
def Remains (written : List τ) (before after : Option τ) : Prop :=
  after = none ∨ after = written.getLast?.or before

theorem Remains.of_nil {x : Option τ} {v : τ} (h : Remains [] x (some v)) : x = some v := by
  rcases h with h | h
  · cases h
  · exact h.symm

theorem Remains.mem {l : List τ} {x : Option τ} {v : τ} (h : Remains l x (some v)) (hl : l ≠ []) :
    v ∈ l := by
  rcases h with h | h
  · cases h
  · rw [List.getLast?_eq_some_getLast hl] at h
    cases h
    exact List.getLast_mem hl

theorem Remains.append {l l' : List τ} {x y z : Option τ} (h : Remains l x y) (h' : Remains l' y z) :
    Remains (l ++ l') x z := by
  unfold Remains
  rw [List.getLast?_append, Option.or_assoc]
  rcases h' with rfl | rfl
  · exact .inl rfl
  · rcases h with rfl | rfl
    · rw [Option.or_none]
      rcases hl : l'.getLast? with _ | v
      · exact .inl rfl
      · exact .inr rfl
    · exact .inr rfl

/-- **What is written last remains**, unless it goes away. -/
theorem run_remains (view : σ → Option τ) (write : Asked R → Option τ)
    (hstep : ∀ q s, Remains (write ⟨q, (answer q s).1⟩).toList (view s) (view (answer q s).2))
    (p : Program Q R α) (s : σ) :
    Remains ((trace answer p s).filterMap write) (view s) (view (run answer p s).2) := by
  induction p generalizing s with
  | done a => exact .inr rfl
  | ask q next ih =>
    have h := (hstep q s).append (ih (answer q s).1 (answer q s).2)
    rw [trace_ask, List.filterMap_cons]
    rcases hw : write ⟨q, (answer q s).1⟩ with _ | v
    · rwa [hw] at h
    · rwa [hw] at h

end SwitchFleet.Program
