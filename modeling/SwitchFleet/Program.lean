/-!
# Programs that ask

A program over an interface asks one question after another and goes on with the answers. Who
answers is left open: a store, a server, or a list of prepared answers.

* `Program`: finite programs over the questions `Q`, each with its own type of answers.
* `Program.run`: the outcome of a program whose questions a stateful world answers.
* `Program.answerWith`: a program with every question replaced by a program over other questions.
* `run_bind`: a sequence of programs runs in sequence.
-/

namespace SwitchFleet

/-- A program that asks questions of `Q` and ends with an `α`. -/
inductive Program (Q : Type) (R : Q → Type) (α : Type) where
  | done (a : α)
  | ask (q : Q) (next : R q → Program Q R α)

namespace Program

variable {Q : Type} {R : Q → Type} {α β γ σ : Type}

/-- The program that goes on where `p` ends. -/
def bind : Program Q R α → (α → Program Q R β) → Program Q R β
  | .done a, f => f a
  | .ask q next, f => .ask q fun r => bind (next r) f

instance : Monad (Program Q R) where
  pure := .done
  bind := bind

def query (q : Q) : Program Q R (R q) := .ask q .done

/-- The outcome of a program in a world that answers its questions. -/
def run (answer : (q : Q) → σ → R q × σ) : Program Q R α → σ → α × σ
  | .done a, s => (a, s)
  | .ask q next, s => run answer (next (answer q s).1) (answer q s).2

/-- A program whose questions are answered by programs over other questions. -/
def answerWith {Q' : Type} {R' : Q' → Type} (f : (q : Q) → Program Q' R' (R q)) :
    Program Q R α → Program Q' R' α
  | .done a => .done a
  | .ask q next => bind (f q) fun r => answerWith f (next r)

/-! ## Sequences -/

@[simp] theorem pure_eq (a : α) : (pure a : Program Q R α) = .done a := rfl

@[simp] theorem bind_eq (p : Program Q R α) (f : α → Program Q R β) : p >>= f = p.bind f := rfl

@[simp] theorem done_bind (a : α) (f : α → Program Q R β) : bind (.done a) f = f a := rfl

@[simp] theorem ask_bind (q : Q) (next : R q → Program Q R α) (f : α → Program Q R β) :
    bind (.ask q next) f = .ask q fun r => bind (next r) f := rfl

@[simp] theorem bind_done (p : Program Q R α) : p.bind .done = p := by
  induction p with
  | done a => rfl
  | ask q next ih => simp [ih]

theorem bind_assoc (p : Program Q R α) (f : α → Program Q R β) (g : β → Program Q R γ) :
    (p.bind f).bind g = p.bind fun a => (f a).bind g := by
  induction p with
  | done a => rfl
  | ask q next ih => simp [ih]

theorem answerWith_bind {Q' : Type} {R' : Q' → Type} (g : (q : Q) → Program Q' R' (R q))
    (p : Program Q R α) (f : α → Program Q R β) :
    (p.bind f).answerWith g = (p.answerWith g).bind fun a => (f a).answerWith g := by
  induction p with
  | done a => rfl
  | ask q next ih => simp [answerWith, bind_assoc, ih]

/-! ## Runs -/

section

variable (answer : (q : Q) → σ → R q × σ)

@[simp] theorem run_done (a : α) (s : σ) : run answer (.done a : Program Q R α) s = (a, s) := rfl

@[simp] theorem run_ask (q : Q) (next : R q → Program Q R α) (s : σ) :
    run answer (.ask q next) s = run answer (next (answer q s).1) (answer q s).2 := rfl

@[simp] theorem run_bind (p : Program Q R α) (f : α → Program Q R β) (s : σ) :
    run answer (p.bind f) s = run answer (f (run answer p s).1) (run answer p s).2 := by
  induction p generalizing s with
  | done a => rfl
  | ask q next ih => simp [ih]

end

end Program

end SwitchFleet
