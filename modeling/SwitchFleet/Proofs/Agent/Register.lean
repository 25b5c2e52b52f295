import SwitchFleet.Proofs.Agent.AdminStatus
import SwitchFleet.Proofs.Program.Concurrent

/-!
# The admin status as a register

What calls that run side by side do to the admin status of one interface: they read it and write it,
and everything else that they ask leaves it alone.

* `Host.Answers`: what a store may answer to one question, with only its database of states failing.
* `Mark`, `mark?`: a reading or a writing of the admin status. `marks`: those of several programs.
* `Legal`, `left`: each reading sees what was there, and what is there in the end. **`register`**: this
  is so after every interleaving.
* `Course`: what a change of the admin status does to it. **`course_of_ends`**: it does nothing else.
-/

namespace SwitchFleet

open Agent Program

/-- A question to the database of states. -/
def Agent.Query.OfState : Agent.Query → Prop
  | .database name => name = Database.stateName
  | .command k _ => k.name = Database.stateName
  | _ => False

/-- A question that failed in the store. -/
def Agent.Refused : Asked Agent.Query.Answer → Prop
  | ⟨.database _, .error _⟩ => True
  | ⟨.command .., .error _⟩ => True
  | _ => False

namespace Host

/-! ## One call of the store -/

/-- A store with the content `c` may answer `r` to a question, and has the content `c'` afterwards.
Only questions to the database of states may fail. -/
def Answers (c : Content) (q : Agent.Query) (r : q.Answer) (c' : Content) : Prop :=
  ∃ h h' : Host, h.content = c ∧ answer q h = (r, h') ∧ h'.content = c' ∧ (Refused ⟨q, r⟩ → q.OfState)

section

variable {c c' : Content} {k : Connection} {name key : String}

theorem answers_database {r : Except StoreError Connection}
    (ha : Answers c (.database name) r c') :
    c' = c ∧ (∀ e, r = .error e → name = Database.stateName) ∧
      ∀ k, r = .ok k → k.name = name ∧ Database.ofName? name = some k.database := by
  obtain ⟨h, h', rfl, ha, rfl, hs⟩ := ha
  cases ha
  refine ⟨rfl, fun e he => ?_, fun k hk => ?_⟩
  · rw [he] at hs
    exact hs trivial
  · unfold connect at hk
    split at hk <;> cases hk
    exact ⟨rfl, ‹_›⟩

theorem answers_command {q : Command} {r : Except StoreError q.Answer}
    (ha : Answers c (.command k q) r c') :
    (∃ e, r = .error e ∧ k.name = Database.stateName ∧ c' = c) ∨
      ∃ h h' : Host, h.content = c ∧ h.fault 0 = none ∧ h.execute k q = (r, h') ∧
        h'.content = c' := by
  obtain ⟨h, h', rfl, ha, rfl, hs⟩ := ha
  rcases hf : h.fault 0 with _ | e
  · exact .inr ⟨h, h', rfl, hf, ha, rfl⟩
  · rw [answer, h.execute_fault k q hf] at ha
    cases ha
    exact .inl ⟨e, rfl, hs trivial, rfl⟩

theorem answers_fields {r : Except StoreError Hash}
    (ha : Answers c (.command k (.fields key)) r c') :
    c' = c ∧ ∀ f, r = .ok f → f = c.hash (some k.database) key := by
  rcases answers_command ha with ⟨e, rfl, -, hc⟩ | ⟨h, h', rfl, hf, hx, rfl⟩
  · exact ⟨hc, fun f hf => nomatch hf⟩
  · rw [h.execute_fields k key hf] at hx
    cases hx
    exact ⟨rfl, fun f hf => by cases hf; rfl⟩

theorem answers_has {r : Except StoreError Bool} (ha : Answers c (.command k (.has key)) r c') :
    c' = c ∧ ∀ b, r = .ok b → b = c.has (some k.database) key := by
  rcases answers_command ha with ⟨e, rfl, -, hc⟩ | ⟨h, h', rfl, hf, hx, rfl⟩
  · exact ⟨hc, fun b hb => nomatch hb⟩
  · rw [h.execute_has k key hf] at hx
    cases hx
    exact ⟨rfl, fun b hb => by cases hb; rfl⟩

theorem answers_setField {field value : String} {r : Except StoreError Unit}
    (ha : Answers c (.command k (.setField key field value)) r c') :
    (∃ e, r = .error e ∧ k.name = Database.stateName ∧ c' = c) ∨
      (r = .ok () ∧ c' = c.setField (some k.database) key field value) := by
  rcases answers_command ha with hfail | ⟨h, h', rfl, hf, hx, rfl⟩
  · exact .inl hfail
  · rw [h.execute_setField k key field value hf] at hx
    cases hx
    exact .inr ⟨rfl, rfl⟩

theorem answers_keys {pattern : String} {r : Except StoreError (List String)}
    (ha : Answers c (.command k (.keys pattern)) r c') : c' = c := by
  rcases answers_command ha with ⟨e, rfl, -, hc⟩ | ⟨h, h', rfl, hf, hx, rfl⟩
  · exact hc
  · rw [h.execute_keys k pattern hf] at hx
    cases hx
    rfl

end

/-! ## Readings and writings -/

/-- What is done to the admin status of an interface. -/
inductive Mark where
  | read (text : String)
  | write (text : String)
deriving DecidableEq

/-- The admin status after it was read or written. -/
def Mark.after : Mark → Option String → Option String
  | read _, v => v
  | write text, _ => some text

/-- A reading sees what is there. A status that is missing is read as an empty text. -/
def Mark.Sees : Mark → Option String → Prop
  | read text, v => text = v.getD ""
  | write _, _ => True

/-- What a question does to the admin status of an interface. -/
def mark? (name : String) : Asked Agent.Query.Answer → Option Mark
  | ⟨.command k (.fields key), .ok f⟩ =>
    if k.database = .configuration ∧ key = configuredKey name then
      some (.read (Hash.text f adminField))
    else none
  | ⟨.command k (.setField key field text), .ok _⟩ =>
    if k.database = .configuration ∧ key = configuredKey name ∧ field = adminField then
      some (.write text)
    else none
  | _ => none

section

variable {ι : Type}

/-- What several programs do to the admin status of an interface. -/
def marks (name : String) (log : List (ι × Asked Agent.Query.Answer)) : List (ι × Mark) :=
  log.filterMap fun e => (mark? name e.2).map fun m => (e.1, m)

theorem marks_append (name : String) (l l' : List (ι × Asked Agent.Query.Answer)) :
    marks name (l ++ l') = marks name l ++ marks name l' := List.filterMap_append

theorem own_marks [DecidableEq ι] (i : ι) (name : String)
    (log : List (ι × Asked Agent.Query.Answer)) :
    own i (marks name log) = (own i log).filterMap (mark? name) := by
  unfold own marks
  rw [List.filterMap_filterMap, List.filterMap_filterMap]
  congr 1
  funext e
  by_cases hi : e.1 = i <;> cases hm : mark? name e.2 <;> simp [hi, hm]

/-- Each reading sees what is there, if it is `v` in the beginning. -/
def Legal : Option String → List (ι × Mark) → Prop
  | _, [] => True
  | v, (_, m) :: ms => m.Sees v ∧ Legal (m.after v) ms

/-- What is there in the end, if it is `v` in the beginning. -/
def left : Option String → List (ι × Mark) → Option String
  | v, [] => v
  | v, (_, m) :: ms => left (m.after v) ms

theorem left_append (v : Option String) (ms ms' : List (ι × Mark)) :
    left v (ms ++ ms') = left (left v ms) ms' := by
  induction ms generalizing v with
  | nil => rfl
  | cons m ms ih => exact ih _

theorem legal_append {v : Option String} {ms ms' : List (ι × Mark)} :
    Legal v (ms ++ ms') ↔ Legal v ms ∧ Legal (left v ms) ms' := by
  induction ms generalizing v with
  | nil => simp [Legal, left]
  | cons m ms ih => simp [Legal, left, ih, and_assoc]

end

/-- The admin status of an interface in a store. -/
def status? (name : String) (c : Content) : Option String :=
  c.field configuration (configuredKey name) adminField

/-- A question marks what it does to the admin status. -/
theorem mark_of_answers (name : String) {c c' : Content} {q : Agent.Query} {r : q.Answer}
    (ha : Answers c q r c') :
    status? name c' =
        ((mark? name ⟨q, r⟩).map (Mark.after · (status? name c))).getD (status? name c) ∧
      ∀ m, mark? name ⟨q, r⟩ = some m → m.Sees (status? name c) := by
  cases q with
  | database _ =>
    rw [(answers_database ha).1]
    exact ⟨rfl, fun m hm => nomatch hm⟩
  | command k q =>
    cases q with
    | fields key =>
      obtain ⟨rfl, hr⟩ := answers_fields ha
      cases r with
      | error e => exact ⟨rfl, fun m hm => nomatch hm⟩
      | ok f =>
        cases hr f rfl
        simp only [mark?]
        split
        · rename_i hk
          refine ⟨rfl, fun m hm => ?_⟩
          cases hm
          rw [hk.1, hk.2]
          rfl
        · exact ⟨rfl, fun m hm => nomatch hm⟩
    | setField key field text =>
      rcases answers_setField ha with ⟨e, rfl, -, rfl⟩ | ⟨rfl, rfl⟩
      · exact ⟨rfl, fun m hm => nomatch hm⟩
      · unfold status?
        rw [Content.field_setField]
        by_cases hk : k.database = .configuration ∧ key = configuredKey name ∧ field = adminField
        · obtain ⟨hd, rfl, rfl⟩ := hk
          simp [mark?, hd, Mark.after, Mark.Sees]
        · rw [if_neg fun h => hk ⟨(Option.some.inj h.1).symm, h.2.1.symm, h.2.2.symm⟩]
          simp [mark?, hk]
    | has key =>
      rw [(answers_has ha).1]
      exact ⟨rfl, fun m hm => nomatch hm⟩
    | keys pattern =>
      rw [answers_keys ha]
      exact ⟨rfl, fun m hm => nomatch hm⟩
  | _ =>
    obtain ⟨h, h', rfl, ha, rfl, -⟩ := ha
    cases ha
    exact ⟨rfl, fun m hm => nomatch hm⟩

/-- **The register.** After every interleaving of programs that ask the same store, each reading of
the admin status has seen what was there, and what is there follows from the writings. -/
theorem register {ι : Type} [DecidableEq ι] {start p : ι → Agent.Run (Except Status Interface)}
    {c₀ c : Content} {log : List (ι × Asked Agent.Query.Answer)} (name : String)
    (h : Concurrent (fun _ => Answers) start c₀ p c log) :
    Legal (status? name c₀) (marks name log) ∧
      status? name c = left (status? name c₀) (marks name log) := by
  induction h with
  | start => exact ⟨trivial, rfl⟩
  | @step p s s' log i q next r _ _ hs ih =>
    obtain ⟨hlegal, hleft⟩ := ih
    obtain ⟨hafter, hsees⟩ := mark_of_answers name hs
    have hlast : marks name [(i, (⟨q, r⟩ : Asked Agent.Query.Answer))] =
        ((mark? name ⟨q, r⟩).map fun m => (i, m)).toList := by
      cases hm : mark? name ⟨q, r⟩ <;> simp [marks, hm]
    rw [marks_append, legal_append, left_append, ← hleft, hafter, hlast]
    cases hm : mark? name ⟨q, r⟩ with
    | none => exact ⟨⟨hlegal, trivial⟩, rfl⟩
    | some m => exact ⟨⟨hlegal, hsees m hm, trivial⟩, rfl⟩

/-! ## What a change does -/

/-- What a question finds, if the interface exists and only the database of states fails. -/
def Finds (name : String) : Asked Agent.Query.Answer → Prop
  | ⟨.database db, .ok k⟩ => k.name = db ∧ Database.ofName? db = some k.database
  | ⟨.database db, .error _⟩ => db = Database.stateName
  | ⟨.command k _, .error _⟩ => k.name = Database.stateName
  | ⟨.command k (.has key), .ok found⟩ =>
    k.database = .configuration → key = configuredKey name → found = true
  | _ => True

theorem finds_of_answers {name : String} {c c' : Content} {q : Agent.Query} {r : q.Answer}
    (hc : c.has configuration (configuredKey name) = true) (ha : Answers c q r c') :
    c'.has configuration (configuredKey name) = true ∧ Finds name ⟨q, r⟩ := by
  cases q with
  | database db =>
    obtain ⟨rfl, he, hk⟩ := answers_database ha
    refine ⟨hc, ?_⟩
    cases r with
    | error e => exact he e rfl
    | ok k => exact hk k rfl
  | command k q =>
    rcases answers_command ha with ⟨e, rfl, hk, rfl⟩ | ⟨h, h', rfl, hf, hx, rfl⟩
    · refine ⟨hc, ?_⟩
      cases q <;> exact hk
    · cases q with
      | fields key =>
        rw [h.execute_fields k key hf] at hx
        cases hx
        exact ⟨hc, trivial⟩
      | setField key field text =>
        rw [h.execute_setField k key field text hf] at hx
        cases hx
        exact ⟨by simp [hc], trivial⟩
      | has key =>
        rw [h.execute_has k key hf] at hx
        cases hx
        refine ⟨hc, fun hd hkey => ?_⟩
        rw [hd, hkey]
        exact hc
      | keys pattern =>
        rw [h.execute_keys k pattern hf] at hx
        cases hx
        exact ⟨hc, trivial⟩
  | _ =>
    obtain ⟨h, h', rfl, ha, rfl, -⟩ := ha
    cases ha
    exact ⟨hc, trivial⟩

/-- A change is not refused before it asks anything. -/
def Accepts (name : String) (status : LineStatus) : Prop := name ≠ "" ∧ status ≠ .unknown

instance (name : String) (status : LineStatus) : Decidable (Accepts name status) :=
  inferInstanceAs (Decidable (_ ∧ _))

/-- What a change of the admin status does to it, with the outcome of the change: it is refused, it
succeeds, or it is rolled back. -/
inductive Course (name : String) (status : LineStatus) :
    List Mark → Except Status Interface → Prop where
  | refused {s : Status} (ha : ¬ Accepts name status) : Course name status [] (.error s)
  | changed {text : String} {i : Interface} (ha : Accepts name status) :
    Course name status [.read text, .write status.text] (.ok i)
  | rolledBack {text : String} {s : Status} (ha : Accepts name status) :
    Course name status [.read text, .write status.text, .write text] (.error s)

variable {α : Type} {t : List (Asked Agent.Query.Answer)}

theorem ends_database {name : String} {r : Except Status Connection}
    (h : Ends (database name).run t r) :
    ∃ a, t = [⟨.database name, a⟩] ∧
      r = a.mapError (failure Status.Code.badRequest ("failed to connect to " ++ name)) := by
  rcases h.bind_inv with ⟨s, -, hq⟩ | ⟨a, t₁, t₂, hq, hf, rfl⟩
  · obtain ⟨a, ha, -⟩ := hq.query_inv
    cases ha
  · obtain ⟨a', ha, rfl⟩ := hq.query_inv
    cases ha
    cases a <;> obtain ⟨rfl, rfl⟩ := Ends.done_inv hf <;> exact ⟨_, rfl, rfl⟩

theorem ends_command {k : Connection} {q : Command} {code : UInt32} {step : String}
    {r : Except Status q.Answer} (h : Ends (command k q code step).run t r) :
    ∃ a, t = [⟨.command k q, a⟩] ∧ r = a.mapError (failure code step) := by
  rcases h.bind_inv with ⟨s, -, hq⟩ | ⟨a, t₁, t₂, hq, hf, rfl⟩
  · obtain ⟨a, ha, -⟩ := hq.query_inv
    cases ha
  · obtain ⟨a', ha, rfl⟩ := hq.query_inv
    cases ha
    cases a <;> obtain ⟨rfl, rfl⟩ := Ends.done_inv hf <;> exact ⟨_, rfl, rfl⟩

theorem ends_guard {p : Prop} [Decidable p] {s : Status} {x : Agent.Task α} {r : Except Status α}
    (h : Ends (do
      if p then throw s
      x : Agent.Task α).run t r) : (p ∧ r = .error s ∧ t = []) ∨ (¬ p ∧ Ends x.run t r) := by
  dsimp only at h
  split at h
  · rcases h.bind_inv with ⟨e, rfl, he⟩ | ⟨a, t₁, t₂, ha, -⟩
    · obtain ⟨he, rfl⟩ := Ends.done_inv he
      cases he
      exact .inl ⟨‹p›, rfl, rfl⟩
    · obtain ⟨ha, -⟩ := Ends.done_inv ha
      cases ha
  · exact .inr ⟨‹¬ p›, h⟩

theorem ends_requireName {name : String} {r : Except Status Unit}
    (h : Ends (requireName name).run t r) :
    (name = "" ∧ (∃ s, r = .error s) ∧ t = []) ∨ (name ≠ "" ∧ r = .ok () ∧ t = []) := by
  unfold requireName at h
  split at h <;> obtain ⟨rfl, rfl⟩ := Ends.done_inv h
  · exact .inl ⟨by simpa using ‹name.isEmpty = true›, ⟨_, rfl⟩, rfl⟩
  · exact .inr ⟨by simpa using ‹¬ name.isEmpty = true›, rfl, rfl⟩

theorem marks_stateAfterChange {name : String} {r : Except Status Hash}
    (h : Ends (stateAfterChange name).run t r) (hf : ∀ a ∈ t, Finds name a) :
    t.filterMap (mark? name) = [] := by
  rcases h.bind_inv with ⟨s, -, hd⟩ | ⟨k, t₁, t₂, hd, hc, rfl⟩
  · obtain ⟨a, rfl, -⟩ := ends_database hd
    rfl
  · obtain ⟨a, rfl, ha⟩ := ends_database hd
    obtain ⟨b, rfl, -⟩ := ends_command hc
    cases a with
    | error e => cases ha
    | ok k' =>
      cases ha
      have hk : Finds name ⟨.database Database.stateName, .ok k⟩ := hf _ (by simp)
      have hstate : k.database = .state := (Option.some.inj hk.2).symm
      cases b <;> simp [mark?, hstate]

theorem ends_configuration_bind {name : String} {f : Connection → Agent.Task α}
    {r : Except Status α} (h : Ends (database Database.configurationName >>= f).run t r)
    (hf : ∀ a ∈ t, Finds name a) :
    ∃ k t', t = ⟨.database Database.configurationName, .ok k⟩ :: t' ∧
      k.name = Database.configurationName ∧ k.database = .configuration ∧ Ends (f k).run t' r := by
  have hfail (e : StoreError)
      (he : (⟨.database Database.configurationName, .error e⟩ : Asked Agent.Query.Answer) ∈ t) :
      False := by
    have hstate : Database.configurationName = Database.stateName := hf _ he
    exact absurd hstate (by decide)
  rcases h.bind_inv with ⟨s, -, hd⟩ | ⟨k, t₁, t', hd, h', rfl⟩
  · obtain ⟨a | k, rfl, ha⟩ := ends_database hd
    · exact (hfail a (List.mem_singleton_self _)).elim
    · cases ha
  · obtain ⟨a | k', rfl, ha⟩ := ends_database hd <;> cases ha
    have hk : Finds name ⟨.database Database.configurationName, .ok k⟩ := hf _ (by simp)
    exact ⟨k, t', rfl, hk.1, (Option.some.inj hk.2).symm, h'⟩

theorem ends_configured_bind {name : String} {k : Connection}
    (hk : k.name = Database.configurationName) {q : Command} {code : UInt32} {step : String}
    {f : q.Answer → Agent.Task α} {r : Except Status α}
    (h : Ends (command k q code step >>= f).run t r) (hf : ∀ a ∈ t, Finds name a) :
    ∃ a t', t = ⟨.command k q, .ok a⟩ :: t' ∧ Ends (f a).run t' r := by
  have hfail (e : StoreError)
      (he : (⟨.command k q, .error e⟩ : Asked Agent.Query.Answer) ∈ t) : False := by
    have hstate : k.name = Database.stateName := by cases q <;> exact hf _ he
    exact absurd (hk.symm.trans hstate) (by decide)
  rcases h.bind_inv with ⟨s, -, hc⟩ | ⟨a, t₁, t', hc, h', rfl⟩
  · obtain ⟨e | a, rfl, ha⟩ := ends_command hc
    · exact (hfail e (List.mem_singleton_self _)).elim
    · cases ha
  · obtain ⟨e | a', rfl, ha⟩ := ends_command hc <;> cases ha
    exact ⟨a, t', rfl, h'⟩

/-- **The course of a change.** Where the interface exists and only the database of states fails, a
change reads the admin status, writes the new one and, if the state cannot be read, writes back what
it has read. -/
theorem course_of_ends {name : String} {status : LineStatus} {r : Except Status Interface}
    (h : Ends (setAdminStatus name status).run t r) (hf : ∀ a ∈ t, Finds name a) :
    Course name status (t.filterMap (mark? name)) r := by
  rcases h.bind_inv with ⟨s, rfl, hn⟩ | ⟨⟨⟩, t₀, t₁, hn, h₁, rfl⟩
  · rcases ends_requireName hn with ⟨rfl, -, rfl⟩ | ⟨-, hs, -⟩
    · exact .refused fun ha => ha.1 rfl
    · cases hs
  obtain ⟨hname, rfl⟩ : name ≠ "" ∧ t₀ = [] := by
    rcases ends_requireName hn with ⟨-, ⟨s, hs⟩, -⟩ | ⟨hname, -, ht⟩
    · cases hs
    · exact ⟨hname, ht⟩
  rcases ends_guard h₁ with ⟨hs, rfl, rfl⟩ | ⟨hs, h₂⟩
  · exact .refused fun ha => ha.2 hs
  have ha : Accepts name status := ⟨hname, hs⟩
  obtain ⟨k, t₂, rfl, hk, hdb, h₃⟩ := ends_configuration_bind h₂ hf
  replace hf := (List.forall_mem_cons.mp hf).2
  obtain ⟨before, t₃, rfl, h₄⟩ := ends_configured_bind hk h₃ hf
  replace hf := (List.forall_mem_cons.mp hf).2
  obtain ⟨⟨⟩, t₄, rfl, h₅⟩ := ends_configured_bind hk h₄ hf
  replace hf := (List.forall_mem_cons.mp hf).2
  obtain ⟨found, t₅, rfl, h₆⟩ := ends_configured_bind hk h₅ hf
  obtain ⟨hfound, hf⟩ := List.forall_mem_cons.mp hf
  rcases ends_guard h₆ with ⟨hnot, -⟩ | ⟨-, h₇⟩
  · rw [hfound hdb rfl] at hnot
    cases hnot
  rcases h₇.bind_inv with ⟨s, -, hq⟩ | ⟨⟨⟩, t₆, t₇, hq, h₈, rfl⟩
  · obtain ⟨a, hs, -⟩ := hq.query_inv
    cases hs
  obtain ⟨⟨⟩, -, rfl⟩ := hq.query_inv
  replace hf : ∀ a ∈ t₇, Finds name a := (List.forall_mem_cons.mp hf).2
  rcases h₈.bind_inv with ⟨s, rfl, hs⟩ | ⟨state, t₈, t₉, hs, hdone, rfl⟩
  · -- the state is not read, and what was read before is written back
    rcases hs.tryCatch_inv with ⟨state, hs, -⟩ | ⟨s', t₈, t₉, hs', hback, rfl⟩
    · cases hs
    obtain ⟨hf', hf⟩ := List.forall_mem_append.mp hf
    obtain ⟨⟨⟩, t₁₀, rfl, hend⟩ := ends_configured_bind hk hback hf
    obtain ⟨-, rfl⟩ := Ends.done_inv hend
    have hmarks : Course name status [.read (Hash.text before adminField), .write status.text,
        .write (Hash.text before adminField)] (.error s) := .rolledBack ha
    simpa [List.filterMap_cons, mark?, hdb, marks_stateAfterChange hs' hf'] using hmarks
  · obtain ⟨rfl, rfl⟩ := Ends.done_inv hdone
    rw [List.append_nil] at hf
    have hmarks : Course name status [.read (Hash.text before adminField), .write status.text]
        (.ok ⟨name, "", .ofField (Hash.text state operationalField), status⟩) := .changed ha
    rcases hs.tryCatch_inv with ⟨state, hs, hs'⟩ | ⟨s', t₈, t₉, hs', hback, rfl⟩
    · cases hs
      simpa [List.filterMap_cons, mark?, hdb, marks_stateAfterChange hs' hf] using hmarks
    · obtain ⟨hf', hf⟩ := List.forall_mem_append.mp hf
      obtain ⟨⟨⟩, t₁₀, rfl, hend⟩ := ends_configured_bind hk hback hf
      obtain ⟨hend, -⟩ := Ends.done_inv hend
      cases hend

end Host

end SwitchFleet
