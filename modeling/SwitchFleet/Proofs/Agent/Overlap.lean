import SwitchFleet.Proofs.Agent.Register

/-!
# Two changes at the same time

Nothing keeps two changes of the admin status of one interface apart. Each of them reads the old
status, writes its own, waits, and may write back what it has read, and the steps of the other one come
anywhere between these. Only the database of states may fail.

* `Changes`: a run of two changes side by side. `Serial`: what a run leaves in which one of them is over
  before the other begins. **`serial_iff_fair`**: this is what is left by the one and then by the other.
* `Undone`: the last thing that happens is a roll-back, and it undoes the other change.
* **`serial_iff_not_undone`**: this is the only way in which two changes leave what they cannot leave
  one after the other.
* `change_lost`: a change that succeeds and is lost.
-/

namespace SwitchFleet.Host

open Agent Program

variable {name : String} {status : Bool → LineStatus} {outcome : Bool → Except Status Interface}
  {v₀ v : Option String} {ms : List (Bool × Mark)}

@[simp] theorem isOk_ok {ε α : Type} (a : α) : (.ok a : Except ε α).isOk = true := rfl

@[simp] theorem isOk_error {ε α : Type} (e : ε) : (.error e : Except ε α).isOk = false := rfl

/-! ## One after the other -/

/-- What a change leaves of the admin status if it runs alone, and succeeds or not. -/
def leaves (name : String) (status : LineStatus) (ok : Bool) (v : Option String) : Option String :=
  if ok then some status.text else if Accepts name status then some (v.getD "") else v

/-- What two changes may leave of the admin status if they run one after the other. -/
def Fair (name : String) (status : Bool → LineStatus) (ok : Bool → Bool) (v₀ v : Option String) :
    Prop :=
  ∃ j, v = leaves name (status j) (ok j) (leaves name (status !j) (ok !j) v₀)

theorem fair_iff_or {ok : Bool → Bool} (j : Bool) :
    Fair name status ok v₀ v ↔
      v = leaves name (status j) (ok j) (leaves name (status !j) (ok !j) v₀) ∨
      v = leaves name (status !j) (ok !j) (leaves name (status j) (ok j) v₀) := by
  cases j <;> simp [Fair, or_comm]

/-! ## Roll-backs that come last -/

/-- The last thing that happens is the roll-back of a change, and the other change has written since
this one read. If the other change fails as well, it had also written before. -/
def Undone (status : Bool → LineStatus) (outcome : Bool → Except Status Interface)
    (v₀ : Option String) (ms : List (Bool × Mark)) : Prop :=
  ∃ j text before between,
    ms = before ++ (j, .read text) :: (between ++ [(j, .write text)]) ∧
      (outcome j).isOk = false ∧ (status !j).text ≠ v₀.getD "" ∧
      (∃ t, (!j, .write t) ∈ between) ∧
      ((outcome !j).isOk = false → ∃ t, (!j, .write t) ∈ before)

theorem own_eq_nil_iff {β : Type} {j : Bool} {l : List (Bool × β)} :
    own j l = [] ↔ l = (own (!j) l).map fun b => (!j, b) := by
  induction l with
  | nil => simp
  | cons e l ih =>
    obtain ⟨i, b⟩ := e
    by_cases hi : i = j
    · subst hi
      rw [own_cons_self, own_cons_of_ne (by simp)]
      refine iff_of_false (by simp) fun h => ?_
      cases hl : own (!i) l <;> simp [hl] at h
    · obtain rfl : i = !j := Bool.eq_not.mpr hi
      rw [own_cons_of_ne hi, own_cons_self, ih]
      simp

theorem Course.accepts {name : String} {status : LineStatus} {l : List Mark}
    {r : Except Status Interface} (h : Course name status l r) (hl : l ≠ []) :
    Accepts name status := by
  cases h <;> first | assumption | exact absurd rfl hl

theorem Course.accepts_of_ok {name : String} {status : LineStatus} {l : List Mark}
    {r : Except Status Interface} (h : Course name status l r) (hr : r.isOk = true) :
    Accepts name status := by
  cases h <;> first | assumption | cases hr

/-- What is read by a change that is rolled back last is what the other one has left so far. -/
theorem fair_of_rolledBack {j : Bool} {before between : List Mark}
    (hj : (outcome j).isOk = false) (ha : Accepts name (status j))
    (hother : Course name (status !j) (before ++ between) (outcome !j))
    (hlegal : Legal v₀ (before.map fun m => (!j, m))) :
    Fair name status (fun j => (outcome j).isOk) v₀
        (some ((left v₀ (before.map fun m => (!j, m))).getD "")) ↔
      ¬ ((status !j).text ≠ v₀.getD "" ∧ (∃ t, .write t ∈ between) ∧
        ((outcome !j).isOk = false → ∃ t, .write t ∈ before)) := by
  rw [fair_iff_or j]
  generalize hms : before ++ between = own at hother
  generalize outcome (!j) = r at hother
  cases hother with
  | refused hn =>
    obtain ⟨rfl, rfl⟩ := List.append_eq_nil_iff.mp hms
    simp [leaves, hj, ha, hn, left]
  | @changed text i hn =>
    rcases before with _ | ⟨m, _ | ⟨m', before⟩⟩
    · obtain rfl : between = _ := hms
      simp [leaves, left, hj, ha, eq_comm]
    · obtain ⟨rfl, rfl⟩ : m = _ ∧ between = _ := List.cons_eq_cons.mp hms
      simp [leaves, left, hj, ha, Mark.after, eq_comm]
    · obtain ⟨rfl, rfl, rfl, rfl⟩ : m = .read text ∧ m' = .write _ ∧ before = [] ∧ between = [] := by
        simpa using hms
      simp [leaves, left, hj, ha, Mark.after]
  | @rolledBack text s hn =>
    rcases before with _ | ⟨m, _ | ⟨m', _ | ⟨m'', before⟩⟩⟩
    · obtain rfl : between = _ := hms
      simp [leaves, left, hj, ha, hn, eq_comm]
    · obtain ⟨rfl, rfl⟩ : m = _ ∧ between = _ := List.cons_eq_cons.mp hms
      simp [leaves, left, hj, ha, hn, Mark.after, eq_comm]
    · obtain ⟨rfl, rfl, rfl⟩ : m = .read text ∧ m' = .write _ ∧ between = [.write text] := by
        simpa using hms
      simp [leaves, left, hj, ha, hn, Mark.after, eq_comm]
    · obtain ⟨rfl, rfl, rfl, rfl, rfl⟩ : m = .read text ∧ m' = .write _ ∧ m'' = .write text ∧
          before = [] ∧ between = [] := by simpa using hms
      have htext : text = v₀.getD "" := hlegal.1
      simp [leaves, left, hj, ha, hn, Mark.after, htext]

/-- What one of two programs did is somewhere in the log, after what only the other one did. -/
theorem split_of_own {j : Bool} {m : Mark} {rest : List Mark} (h : own j ms = m :: rest) :
    ∃ before after, ms = before ++ (j, m) :: after ∧ own j before = [] ∧ own j after = rest := by
  obtain ⟨before, ⟨i, m'⟩, after, rfl, hbefore, hm, hafter⟩ := List.filterMap_eq_cons_iff.mp h
  obtain ⟨rfl, rfl⟩ : i = j ∧ m' = m := by simpa using hm
  exact ⟨before, after, rfl, List.filterMap_eq_nil_iff.mpr hbefore, hafter⟩

/-- The two parts of the log around the reading of a change that is rolled back last. -/
theorem fair_iff_of_split {j : Bool} {text : String} {before between : List (Bool × Mark)}
    (hcourse : ∀ j, Course name (status j) (own j ms) (outcome j)) (hlegal : Legal v₀ ms)
    (hms : ms = before ++ (j, .read text) :: (between ++ [(j, .write text)]))
    (hbefore : own j before = []) (hj : (outcome j).isOk = false) :
    Fair name status (fun j => (outcome j).isOk) v₀ (left v₀ ms) ↔
      ¬ ((status !j).text ≠ v₀.getD "" ∧ (∃ t, (!j, .write t) ∈ between) ∧
        ((outcome !j).isOk = false → ∃ t, (!j, .write t) ∈ before)) := by
  have hne : j ≠ !j := by simp
  have hother := hcourse !j
  rw [hms, own_append, own_cons_of_ne hne, own_append, own_cons_of_ne hne, own_nil,
    List.append_nil] at hother
  have ha : Accepts name (status j) := by
    have hself := hcourse j
    rw [hms, own_append, own_cons_self] at hself
    exact hself.accepts (by simp)
  rw [hms, legal_append] at hlegal
  obtain ⟨hbeforeLegal, htext, -⟩ := hlegal
  have hleft : left v₀ ms = some text := by
    rw [hms, ← List.cons_append, ← List.append_assoc, left_append]
    rfl
  rw [own_eq_nil_iff.mp hbefore] at hbeforeLegal htext
  rw [hleft, htext, fair_of_rolledBack hj ha hother hbeforeLegal]
  simp [mem_own]

theorem own_before_eq_nil {j : Bool} {text : String} {before after : List (Bool × Mark)}
    (hcourse : Course name (status j) (own j (before ++ (j, .read text) :: after)) (outcome j))
    (hj : (outcome j).isOk = false) : own j before = [] := by
  rw [own_append, own_cons_self] at hcourse
  generalize hown : own j before ++ _ = l at hcourse
  generalize outcome j = r at hcourse hj
  cases hcourse with
  | refused => simp at hown
  | changed => cases hj
  | @rolledBack text' =>
    rcases hb : own j before with _ | ⟨m, rest⟩
    · rfl
    · rw [hb, List.cons_append] at hown
      have hmem : Mark.read text ∈ [.write (status j).text, .write text'] := by
        rw [← (List.cons_eq_cons.mp hown).2]
        simp
      simp at hmem

/-- **When nothing is lost.** What two changes leave is what they may leave one after the other,
unless a roll-back comes last and undoes the other change. -/
theorem fair_iff (hcourse : ∀ j, Course name (status j) (own j ms) (outcome j))
    (hlegal : Legal v₀ ms) :
    Fair name status (fun j => (outcome j).isOk) v₀ (left v₀ ms) ↔ ¬ Undone status outcome v₀ ms := by
  constructor
  · rintro hfair ⟨j, text, before, between, hms, hj, hrest⟩
    have hbefore : own j before = [] := own_before_eq_nil (hms ▸ hcourse j) hj
    exact (fair_iff_of_split hcourse hlegal hms hbefore hj).mp hfair hrest
  intro hundone
  rcases List.eq_nil_or_concat ms with rfl | ⟨ms', ⟨j, m⟩, hlast⟩
  · -- both changes are refused
    have hrefused (j : Bool) : (outcome j).isOk = false ∧ ¬ Accepts name (status j) := by
      have hj := hcourse j
      rw [own_nil] at hj
      generalize outcome j = r at hj
      cases hj
      exact ⟨rfl, ‹_›⟩
    exact ⟨true, by simp [leaves, left, hrefused]⟩
  rw [List.concat_eq_append] at hlast
  have hself := hcourse j
  rw [hlast, own_append, own_cons_self, own_nil] at hself
  generalize hown : own j ms' ++ [m] = l at hself
  generalize hr : outcome j = r at hself
  -- Whatever came before, the mark that comes last decides what is left.
  cases hself with
  | refused => simp at hown
  | @changed text i =>
    obtain ⟨-, hm⟩ : own j ms' = [.read text] ∧ [m] = [.write (status j).text] :=
      List.append_inj' hown rfl
    cases hm
    have hj : (outcome j).isOk = true := congrArg Except.isOk hr
    refine ⟨j, ?_⟩
    rw [hlast, left_append]
    simp [left, leaves, hj, Mark.after]
  | @rolledBack text s =>
    obtain ⟨hstart, hm⟩ :
        own j ms' = [.read text, .write (status j).text] ∧ [m] = [.write text] :=
      List.append_inj' hown rfl
    cases hm
    obtain ⟨before, between, hms', hbefore, -⟩ := split_of_own hstart
    have hms : ms = before ++ (j, .read text) :: (between ++ [(j, .write text)]) := by
      rw [hlast, hms', List.append_assoc, List.cons_append]
    have hj : (outcome j).isOk = false := congrArg Except.isOk hr
    exact (fair_iff_of_split hcourse hlegal hms hbefore hj).mpr fun hrest =>
      hundone ⟨j, text, before, between, hms, hj, hrest⟩

/-! ## Runs -/

/-- Two changes of the admin status of one interface, side by side, have come to their ends. -/
abbrev Changes (name : String) (status : Bool → LineStatus) (c₀ : Content)
    (outcome : Bool → Except Status Interface) (c : Content)
    (log : List (Bool × Asked Agent.Query.Answer)) : Prop :=
  Concurrent (fun _ => Answers) (fun j => (setAdminStatus name (status j)).run) c₀
    (fun j => .done (outcome j)) c log

/-- What the two changes may leave of the admin status in a run in which one of them is at its end
before the other begins, and in which they succeed or not as given. -/
def Serial (name : String) (status : Bool → LineStatus) (c₀ : Content) (ok : Bool → Bool)
    (v : Option String) : Prop :=
  ∃ outcome c log j, Changes name status c₀ outcome c log ∧
    log.Pairwise (fun a b => a.1 = j → b.1 = j) ∧ (∀ j, (outcome j).isOk = ok j) ∧
    status? name c = v

variable {c₀ c : Content} {log : List (Bool × Asked Agent.Query.Answer)}

theorem course_of_changes (hkey : c₀.has configuration (configuredKey name) = true)
    (hrun : Changes name status c₀ outcome c log) (j : Bool) :
    Course name (status j) (own j (marks name log)) (outcome j) := by
  rw [own_marks]
  refine course_of_ends (hrun.answered j) fun a ha => ?_
  exact (hrun.keeps (I := fun c => c.has configuration (configuredKey name) = true) hkey
    fun _ _ _ _ _ hc hs => finds_of_answers hc hs).2 _ (mem_own.mp ha)

theorem fair_iff_of_changes (hkey : c₀.has configuration (configuredKey name) = true)
    (hrun : Changes name status c₀ outcome c log) :
    Fair name status (fun j => (outcome j).isOk) (status? name c₀) (status? name c) ↔
      ¬ Undone status outcome (status? name c₀) (marks name log) := by
  obtain ⟨hlegal, hleft⟩ := register name hrun
  rw [hleft]
  exact fair_iff (course_of_changes hkey hrun) hlegal

/-- Nothing is undone if one change is at its end before the other begins. -/
theorem not_undone_of_pairwise {k : Bool} (h : ms.Pairwise fun a b => a.1 = k → b.1 = k) :
    ¬ Undone status outcome v₀ ms := by
  rintro ⟨j, text, before, between, rfl, -, -, ⟨t, ht⟩, -⟩
  obtain ⟨-, h, -⟩ := List.pairwise_append.mp h
  obtain ⟨hread, h⟩ := List.pairwise_cons.mp h
  obtain ⟨-, -, h⟩ := List.pairwise_append.mp h
  have hfirst : j = k → (!j) = k := hread _ (List.mem_append_left _ ht)
  have hlast : (!j) = k → j = k := h _ ht _ (List.mem_singleton_self _)
  cases j <;> cases k <;> simp at hfirst hlast

theorem pairwise_marks {k : Bool} (h : log.Pairwise fun a b => a.1 = k → b.1 = k) :
    (marks name log).Pairwise fun a b => a.1 = k → b.1 = k := by
  refine List.Pairwise.filterMap _ (fun a b hab a' ha b' hb => ?_) h
  obtain ⟨m, -, rfl⟩ := Option.map_eq_some_iff.mp ha
  obtain ⟨m', -, rfl⟩ := Option.map_eq_some_iff.mp hb
  exact hab

theorem fair_of_serial {ok : Bool → Bool} (hkey : c₀.has configuration (configuredKey name) = true)
    (h : Serial name status c₀ ok v) : Fair name status ok (status? name c₀) v := by
  obtain ⟨outcome, c, log, k, hrun, hlog, hok, rfl⟩ := h
  rw [← funext hok]
  exact (fair_iff_of_changes hkey hrun).mpr (not_undone_of_pairwise (pairwise_marks hlog))

/-! ## Changes that run alone -/

/-- A store with given content whose fifth call fails, unless a change is to succeed. -/
def alone (c : Content) (ok : Bool) : Host :=
  ⟨c, fun _ => .ok none, none, fun n =>
    if n = 4 ∧ ok = false then .failing (.unavailable "timeout") else .smooth⟩

theorem fault_alone (c : Content) (ok : Bool) {n : Nat} (hn : n ≠ 4) : (alone c ok).fault n = none := by
  simp [alone, fault, hn, Turn.smooth]

theorem fault_alone_four (c : Content) (ok : Bool) : (alone c ok).fault 4 = none ↔ ok = true := by
  cases ok <;> simp [alone, fault, Turn.smooth, Turn.failing]

theorem status_withAdmin (h : Host) (name text : String) :
    status? name (h.withAdmin name text) = some text := by simp [status?, withAdmin]

/-- Only questions to the database of states fail. -/
def Spared (asked : List (Asked Agent.Query.Answer)) : Prop := ∀ a ∈ asked, Refused a → a.1.OfState

theorem spared_append {l l' : List (Asked Agent.Query.Answer)} (h : Spared l) (h' : Spared l') :
    Spared (l ++ l') := List.forall_mem_append.mpr ⟨h, h'⟩

theorem StateRead.spared {h : Host} {name : String} {r : Except Status Hash} {n : Nat}
    {asked : List (Asked Agent.Query.Answer)} (hs : h.StateRead name r n asked) : Spared asked := by
  cases hs <;> simp [Spared, Refused, Query.OfState, connection]

theorem spared_untilSettled (h : Host) (name : String) (status : LineStatus) :
    Spared (h.untilSettled name status) := by
  simp [Spared, untilSettled, beforeWrite, write, Refused]

theorem spared_write (h : Host) (name text : String) : Spared [h.write name text (.ok ())] := by
  simp [Spared, write, Refused]

theorem StateRead.isOk {c : Content} {ok : Bool} {name : String} {s : LineStatus}
    {r : Except Status Hash} {n : Nat} {asked : List (Asked Agent.Query.Answer)}
    (hs : ((alone c ok).settled name s).StateRead name r n asked) : r.isOk = ok ∧ n ≠ 0 := by
  have hfour : ((alone c ok).settled name s).fault 0 = none ↔ ok = true := fault_alone_four c ok
  have hfive : ((alone c ok).settled name s).fault 1 = none := fault_alone c ok (by decide)
  cases hs with
  | unreachable hf =>
    rw [hf] at hfour
    cases ok <;> simp at hfour ⊢
  | unread hf hr => simp [hfive] at hr
  | read hf hr => simp [hfour.mp hf]

theorem runs_alone (c : Content) {s : LineStatus} {ok : Bool}
    (hok : ok = true → Accepts name s) :
    ∃ r h' asked, (alone c ok).Runs (setAdminStatus name s) r h' asked ∧ Spared asked ∧
      r.isOk = ok ∧ status? name h'.content = leaves name s ok (status? name c) := by
  obtain ⟨r, h', c', asked, hrun, hc, he⟩ := (alone c ok).exit_setAdminStatus name s
  refine ⟨r, h', asked, hrun, ?_⟩
  rw [hc]
  have hrefused (hna : ¬ Accepts name s) : ok = false := by
    cases ok
    · rfl
    · exact absurd (hok rfl) hna
  cases he with
  | noName hn =>
    have hna : ¬ Accepts name s := fun ha => ha.1 hn
    simp [Spared, hrefused hna, leaves, hna, alone]
  | noStatus hn hs =>
    have hna : ¬ Accepts name s := fun ha => ha.2 hs
    simp [Spared, hrefused hna, leaves, hna, alone]
  | noConnection h0 => simp [fault_alone] at h0
  | unread h1 => simp [fault_alone] at h1
  | unwritten h2 => simp [fault_alone] at h2
  | unchecked hw h3 => simp [fault_alone] at h3
  | rolledBack hw h3 hs hr =>
    have ha : Accepts name s := ⟨hw.named, hw.known⟩
    obtain rfl : false = ok := hs.isOk.1
    refine ⟨spared_append (spared_untilSettled _ _ _) (spared_append hs.spared (spared_write _ _ _)),
      rfl, ?_⟩
    rw [status_withAdmin, leaves, if_neg Bool.false_ne_true, if_pos ha]
    rfl
  | @stuck _ n _ _ hw h3 hs hr =>
    have hn : (alone c ok).fault (0 + n + 4) = none :=
      fault_alone c ok (by have := hs.isOk.2; omega)
    rw [show ((alone c ok).settled name s |>.skip n).fault 0 = _ from hn] at hr
    cases hr
  | changed hw h3 hs =>
    obtain rfl : true = ok := hs.isOk.1
    exact ⟨spared_append (spared_untilSettled _ _ _) hs.spared, rfl, status_withAdmin ..⟩

theorem concurrent_alone {p : Bool → Agent.Run (Except Status Interface)} {j : Bool}
    (hp : p j = (setAdminStatus name (status j)).run) {ok : Bool}
    (hok : ok = true → Accepts name (status j))
    (h : Concurrent (fun _ => Answers) (fun j => (setAdminStatus name (status j)).run) c₀ p c log) :
    ∃ (r : Except Status Interface) (c' : Content) (asked : List (Asked Agent.Query.Answer)),
      Concurrent (fun _ => Answers) (fun j => (setAdminStatus name (status j)).run) c₀
        (Function.update p j (.done r)) c' (log ++ asked.map fun e => (j, e)) ∧
      r.isOk = ok ∧ status? name c' = leaves name (status j) ok (status? name c) := by
  obtain ⟨r, h', asked, hrun, hspared, hr, hleft⟩ := runs_alone c hok
  refine ⟨r, h'.content, asked, ?_, hr, hleft⟩
  have hstep (q : Agent.Query) (w : Host)
      (hq : Refused ⟨q, (answer q w).1⟩ → (⟨q, (answer q w).1⟩ : Asked Agent.Query.Answer).1.OfState) :
      Answers w.content q (answer q w).1 (answer q w).2.content := ⟨w, _, rfl, rfl, rfl, hq⟩
  have hlast := concurrent_run Host.content (P := fun e => Refused e → e.1.OfState) hstep hp
    (hrun.trace_eq ▸ hspared) h
  rwa [hrun.run_eq, hrun.trace_eq] at hlast

theorem update_both {β : Type} (p : Bool → Agent.Run β) (j : Bool) (a b : β) :
    Function.update (Function.update p (!j) (.done a)) j (.done b) =
      fun k => .done (if k = j then b else a) := by
  funext k
  by_cases hk : k = j
  · rw [hk, Function.update_self, if_pos rfl]
  · rw [Function.update_of_ne hk, if_neg hk, Bool.eq_not.mpr hk, Function.update_self]

theorem serial_of_fair {ok : Bool → Bool} (hok : ∀ j, ok j = true → Accepts name (status j))
    (h : Fair name status ok (status? name c₀) v) : Serial name status c₀ ok v := by
  obtain ⟨j, rfl⟩ := h
  have hstart : Concurrent (fun _ => Answers) (fun j => (setAdminStatus name (status j)).run) c₀ _
    c₀ [] := .start
  obtain ⟨r₁, c₁, asked₁, hrun₁, hr₁, hleft₁⟩ := concurrent_alone (j := !j) rfl (hok (!j)) hstart
  obtain ⟨r₂, c₂, asked₂, hrun₂, hr₂, hleft₂⟩ :=
    concurrent_alone (j := j) (Function.update_of_ne (by simp) ..) (hok j) hrun₁
  refine ⟨fun k => if k = j then r₂ else r₁, c₂,
    [] ++ asked₁.map (fun e => (!j, e)) ++ asked₂.map fun e => (j, e), j, ?_, ?_, fun k => ?_, ?_⟩
  · rwa [update_both] at hrun₂
  · rw [List.nil_append]
    refine List.pairwise_append.mpr ⟨?_, ?_, fun a _ b hb _ => ?_⟩
    · exact List.pairwise_map.mpr (List.pairwise_of_forall fun _ _ hj => absurd hj (by simp))
    · exact List.pairwise_map.mpr (List.pairwise_of_forall fun _ _ hj => hj)
    · obtain ⟨e, -, rfl⟩ := List.mem_map.mp hb
      rfl
  · dsimp only
    by_cases hk : k = j
    · rw [if_pos hk, hk, hr₂]
    · rw [if_neg hk, Bool.eq_not.mpr hk, hr₁]
  · rw [hleft₂, hleft₁]

/-- **What one change after the other may leave.** -/
theorem serial_iff_fair (hkey : c₀.has configuration (configuredKey name) = true)
    {ok : Bool → Bool} (hok : ∀ j, ok j = true → Accepts name (status j)) :
    Serial name status c₀ ok v ↔ Fair name status ok (status? name c₀) v :=
  ⟨fair_of_serial hkey, serial_of_fair hok⟩

theorem fair_iff_of_single {ok : Bool → Bool} {j : Bool} (hj : ok j = true) (hother : ok (!j) = false) :
    Fair name status ok v₀ v ↔ v = some (status j).text := by
  rw [fair_iff_or j]
  simp [leaves, hj, hother]

/-- **Two changes at the same time.** The admin status that they leave is one that they may leave one
after the other, with the same successes, unless a roll-back comes last and undoes the other change. If
exactly one of them succeeds, its status is left under the same condition. -/
theorem serial_iff_not_undone (hkey : c₀.has configuration (configuredKey name) = true)
    (hrun : Changes name status c₀ outcome c log) :
    (Serial name status c₀ (fun j => (outcome j).isOk) (status? name c) ↔
        ¬ Undone status outcome (status? name c₀) (marks name log)) ∧
      ∀ j, (outcome j).isOk = true → (outcome !j).isOk = false →
        (status? name c = some (status j).text ↔
          ¬ Undone status outcome (status? name c₀) (marks name log)) := by
  have hfair := fair_iff_of_changes hkey hrun
  refine ⟨?_, fun j hj hother => ?_⟩
  · rw [← hfair]
    refine serial_iff_fair hkey fun j hj => ?_
    exact (course_of_changes hkey hrun j).accepts_of_ok hj
  · rw [← hfair]
    exact (fair_iff_of_single hj hother).symm

/-! ## Changes that are lost -/

instance (q : Agent.Query) : Decidable q.OfState :=
  match q with
  | .database _ => inferInstanceAs (Decidable (_ = _))
  | .command _ _ => inferInstanceAs (Decidable (_ = _))
  | .link _ => inferInstanceAs (Decidable False)
  | .manifest => inferInstanceAs (Decidable False)
  | .settle => inferInstanceAs (Decidable False)

instance (a : Asked Agent.Query.Answer) : Decidable (Refused a) :=
  match a with
  | ⟨.database _, .error _⟩ => .isTrue trivial
  | ⟨.database _, .ok _⟩ => .isFalse id
  | ⟨.command _ _, .error _⟩ => .isTrue trivial
  | ⟨.command _ _, .ok _⟩ => .isFalse id
  | ⟨.link _, _⟩ => .isFalse id
  | ⟨.manifest, _⟩ => .isFalse id
  | ⟨.settle, _⟩ => .isFalse id

/-- A device that is asked a question, and whose database of states may be out of reach. -/
def asking (reachable : Bool) (q : Agent.Query) (c : Content) : Host :=
  ⟨c, fun _ => .ok none, none, fun _ =>
    if reachable || !decide q.OfState then .smooth else .failing (.unavailable "timeout")⟩

/-- The answer of such a device, with what is stored afterwards. -/
def reply (reachable : Bool) (q : Agent.Query) (c : Content) : Option (q.Answer × Content) :=
  let r := answer q (asking reachable q c)
  if Refused ⟨q, r.1⟩ → q.OfState then some (r.1, r.2.content) else none

theorem answers_reply {reachable : Bool} {q : Agent.Query} {c c' : Content} {r : q.Answer}
    (h : reply reachable q c = some (r, c')) : Answers c q r c' := by
  unfold reply at h
  by_cases hs : Refused ⟨q, (answer q (asking reachable q c)).1⟩ → q.OfState
  · rw [if_pos hs] at h
    cases h
    exact ⟨_, _, rfl, rfl, rfl, hs⟩
  · rw [if_neg hs] at h
    cases h

/-- A store with an interface that is down. -/
def oneDown : Content := Content.empty.setFields configuration "PORT|Ethernet0" [("admin_status", "down")]

/-- Two changes that both ask for up, in turns. The database of states is out of reach for those that
are not to succeed. -/
def bothUp (succeeds : Bool → Bool) (turns : List Bool) :
    (Bool → Agent.Run (Except Status Interface)) × Content × List (Bool × Asked Agent.Query.Answer) :=
  play (fun j => reply (succeeds j)) turns
    (fun _ => (setAdminStatus "Ethernet0" .up).run, oneDown, [])

theorem changes_bothUp {succeeds : Bool → Bool} {turns : List Bool}
    (h : ∀ j, (bothUp succeeds turns).1 j = .done (outcome j)) :
    Changes "Ethernet0" (fun _ => .up) oneDown outcome (bothUp succeeds turns).2.1
      (bothUp succeeds turns).2.2 := by
  have hplay : Concurrent (fun _ => Answers) (fun _ => (setAdminStatus "Ethernet0" .up).run) oneDown
      (bothUp succeeds turns).1 (bothUp succeeds turns).2.1 (bothUp succeeds turns).2.2 :=
    concurrent_play (fun j q s r s' (h : reply (succeeds j) q s = some (r, s')) => answers_reply h)
      .start turns
  rwa [funext h] at hplay

/-- The first change writes, then the second one runs to its end, and then the first one fails. -/
def overtaken : List Bool := List.replicate 5 false ++ List.replicate 7 true ++ List.replicate 2 false

/-- **A change that is lost.** The interface is down, both changes ask for up, and exactly one of them
succeeds. The roll-back of the other one leaves the interface down, which no order of the two does. -/
theorem change_lost :
    oneDown.has configuration (configuredKey "Ethernet0") = true ∧
      ∃ outcome c log, Changes "Ethernet0" (fun _ => .up) oneDown outcome c log ∧
        (outcome true).isOk = true ∧ (outcome false).isOk = false ∧
        status? "Ethernet0" c = some "down" ∧
        ¬ Serial "Ethernet0" (fun _ => .up) oneDown (fun j => (outcome j).isOk)
          (status? "Ethernet0" c) := by
  let outcome : Bool → Except Status Interface := fun j =>
    if j then .ok ⟨"Ethernet0", "", .ofField "", .up⟩
    else .error (failure Status.Code.badRequest "failed to connect to STATE_DB" (.unavailable "timeout"))
  have hrun : Changes "Ethernet0" (fun _ => .up) oneDown outcome (bothUp id overtaken).2.1
      (bothUp id overtaken).2.2 := changes_bothUp fun j => by cases j <;> rfl
  have hdown : status? "Ethernet0" (bothUp id overtaken).2.1 = some "down" := by rfl
  refine ⟨by rfl, outcome, _, _, hrun, rfl, rfl, hdown, fun h => ?_⟩
  have hfair := (fair_iff_of_single (j := true) rfl rfl).mp (fair_of_serial (by rfl) h)
  rw [hdown] at hfair
  exact absurd hfair (by decide)

/-- The second change reads what the first one writes before it fails, and fails as well. -/
def inFlight : List Bool :=
  List.replicate 5 false ++ List.replicate 2 true ++ List.replicate 2 false ++ List.replicate 5 true

/-- Two changes that fail, where the second one has read what the first one wrote: the interface is up,
which it was not before. -/
theorem failed_up :
    oneDown.has configuration (configuredKey "Ethernet0") = true ∧
      ∃ outcome c log, Changes "Ethernet0" (fun _ => .up) oneDown outcome c log ∧
        (∀ j, (outcome j).isOk = false) ∧ status? "Ethernet0" c = some "up" ∧
        ¬ Serial "Ethernet0" (fun _ => .up) oneDown (fun j => (outcome j).isOk)
          (status? "Ethernet0" c) := by
  let outcome : Bool → Except Status Interface := fun _ =>
    .error (failure Status.Code.badRequest "failed to connect to STATE_DB" (.unavailable "timeout"))
  have hkey : oneDown.has configuration (configuredKey "Ethernet0") = true := by rfl
  have hrun : Changes "Ethernet0" (fun _ => .up) oneDown outcome
      (bothUp (fun _ => false) inFlight).2.1 (bothUp (fun _ => false) inFlight).2.2 :=
    changes_bothUp fun j => by cases j <;> rfl
  refine ⟨hkey, outcome, _, _, hrun, fun _ => rfl, by rfl, fun h => ?_⟩
  refine (serial_iff_not_undone hkey hrun).1.mp h ⟨true, "up", [(false, .read "down"), (false, .write "up")],
    [(false, .write "down"), (true, .write "up")], ?_, rfl, by decide, ⟨_, .head _⟩,
    fun _ => ⟨_, .tail _ (.head _)⟩⟩
  rfl

end SwitchFleet.Host
