import SwitchFleet.Proofs.Agent.Atomicity

/-!
# What a change of the admin status does

The writes of a change, its outcome, and what is stored after it, for every pattern of calls of the store
that fail.

* `Host.stateFault?`: the status of a failure to reach the database of states, or to read the state of an
  interface there. `Exit.faults_eq`: which of these occur in a change.
* `Host.Accounted`: what is certain about a change. **`change_accounted`**: it holds of every change.
-/

namespace SwitchFleet.Host

open Agent

/-- The status of a failure to reach the database of states, or to read the state of an interface there. -/
def stateFault? (name : String) : Program.Asked Agent.Query.Answer → Option Status
  | ⟨.database db, .error e⟩ =>
    if db = Database.stateName then
      some (failure Status.Code.badRequest ("failed to connect to " ++ Database.stateName) e)
    else none
  | ⟨.command c (.fields key), .error e⟩ =>
    if c.database = .state ∧ key = stateKey name then
      some (failure Status.Code.keyCheckFailed "failed to get state info" e)
    else none
  | _ => none

variable (h : Host) (name : String) (status : LineStatus)

/-- What is certain about a change of the admin status, given its outcome, the device after it, and the
questions that were asked.

* A change without a name, or to a status that is not known, is refused before anything is asked.
* Nothing but the admin status of the interface is ever written, and all else stays as it was.
* After a success, the wanted status is stored. It is reported without a MAC address and with the
  operational status that was read last, after the write.
* Where the state cannot be read, the status that was read before is written back at the end. If this
  succeeds, that status is stored and the failure to read the state is reported. If it fails, the wanted
  status is stored and the failed write is reported. -/
structure Accounted (r : Except Status Interface) (h' : Host)
    (asked : List (Program.Asked Agent.Query.Answer)) : Prop where
  refused : name = "" ∨ status = .unknown →
    asked = [] ∧ ∃ message, r = .error (.badRequest message)
  written : ∀ a ∈ asked, isWrite a = true → ∃ text reply, a = h.write name text reply
  apart : h.content.SameApart configuration (configuredKey name) adminField h'.content
  changed : ∀ i, r = .ok i →
    h'.admin? name = some status.text ∧ i.name = name ∧ i.admin = status ∧ i.macAddress = "" ∧
      ∃ before c fields, c.database = .state ∧
        fields = h'.content.hash (some .state) (stateKey name) ∧
        asked = before ++ [⟨.command c (.fields (stateKey name)), .ok fields⟩] ∧
        h.write name status.text (.ok ()) ∈ before ∧
        i.operational = if Keyed.get? operationalField fields = some "up" then .up else .down
  lost : ∀ s ∈ asked.filterMap (stateFault? name), ∃ before fields reply,
    asked = before ++ [h.write name (Hash.text fields adminField) reply] ∧
      ⟨.command h.writer (.fields (configuredKey name)), .ok fields⟩ ∈ before ∧
      (Keyed.get? adminField fields = h.admin? name) ∧
      match reply with
      | .ok () => r = .error s ∧ s.code ≠ Status.Code.writeFailed ∧
          h'.admin? name = some ((h.admin? name).getD "")
      | .error e =>
          r = .error (failure Status.Code.writeFailed "failed to rollback admin status" e) ∧
          h'.admin? name = some status.text

variable {h name status}

/-! ## The parts -/

theorem admin?_of_withAdmin {h' : Host} {text : String} (hc : h'.content = h.withAdmin name text) :
    h'.admin? name = some text := by
  unfold admin?
  rw [hc]
  simp [withAdmin]

/-- Among the questions about the state, there is the failure that is reported, if there is one. -/
theorem StateRead.faults_eq {r : Except Status Hash} {n : Nat}
    {asked : List (Program.Asked Agent.Query.Answer)} (hs : h.StateRead name r n asked) :
    asked.filterMap (stateFault? name) = match r with
      | .ok _ => []
      | .error s => [s] := by
  cases hs with
  | unreachable => rfl
  | unread =>
    exact (List.filterMap_cons_none rfl).trans (List.filterMap_cons_some (if_pos ⟨rfl, rfl⟩))
  | read => rfl

theorem StateRead.code_ne {s : Status} {n : Nat} {asked : List (Program.Asked Agent.Query.Answer)}
    (hs : h.StateRead name (.error s) n asked) : s.code ≠ Status.Code.writeFailed := by
  cases hs <;> simp [Agent.failure, Status.Code.badRequest, Status.Code.keyCheckFailed,
    Status.Code.writeFailed]

theorem StateRead.noWrite {r : Except Status Hash} {n : Nat}
    {asked : List (Program.Asked Agent.Query.Answer)} (hs : h.StateRead name r n asked) :
    ∀ a ∈ asked, isWrite a = false := by
  cases hs <;> simp [isWrite]

theorem stateFault?_fields {c : Connection} {key : String} {e : StoreError}
    (hc : c.database ≠ .state) : stateFault? name ⟨.command c (.fields key), .error e⟩ = none :=
  if_neg fun hs => hc hs.1

/-- What occurs of these failures is reported in one of two ways: the wanted status was written, and
after the failure the former one is written back, which succeeds or fails. -/
theorem Exit.faults_eq {r : Except Status Interface} {c : Content}
    {asked : List (Program.Asked Agent.Query.Answer)} (he : h.Exit name status r c asked) :
    asked.filterMap (stateFault? name) = [] ∨
      ∃ s t reply, asked.filterMap (stateFault? name) = [s] ∧ s.code ≠ Status.Code.writeFailed ∧
        asked = h.untilSettled name status ++ (t ++
          [h.write name (Hash.text (h.former name) adminField) reply]) ∧
        (reply = .ok () ∧ r = .error s ∧ c = h.withAdmin name (Hash.text (h.former name) adminField) ∨
          ∃ e, reply = .error e ∧
            r = .error (failure Status.Code.writeFailed "failed to rollback admin status" e) ∧
            c = h.withAdmin name status.text) := by
  have hsettled : (h.untilSettled name status).filterMap (stateFault? name) = [] := rfl
  have hfailed {s : Status} {n : Nat} {t : List (Program.Asked Agent.Query.Answer)}
      {reply : Except StoreError Unit}
      (hs : (h.settled name status).StateRead name (.error s) n t) :
      (h.untilSettled name status ++ (t ++
        [h.write name (Hash.text (h.former name) adminField) reply])).filterMap (stateFault? name) =
          [s] := by
    rw [List.filterMap_append, List.filterMap_append, hsettled, hs.faults_eq]
    rfl
  cases he with
  | noName | noStatus | noConnection | unwritten | unchecked => exact .inl rfl
  | unread =>
    exact .inl ((List.filterMap_cons_none rfl).trans
      (List.filterMap_cons_none (stateFault?_fields (by nofun))))
  | rolledBack hw h3 hs hr =>
    exact .inr ⟨_, _, .ok (), hfailed hs, hs.code_ne, rfl, .inl ⟨rfl, rfl, rfl⟩⟩
  | @stuck _ _ _ e hw h3 hs hr =>
    exact .inr ⟨_, _, .error e, hfailed hs, hs.code_ne, rfl, .inr ⟨e, rfl, rfl, rfl⟩⟩
  | changed hw h3 hs =>
    rw [List.filterMap_append, hsettled, hs.faults_eq]
    exact .inl rfl

theorem Exit.writes {r : Except Status Interface} {c : Content}
    {asked : List (Program.Asked Agent.Query.Answer)} (he : h.Exit name status r c asked) :
    ∀ a ∈ asked, isWrite a = true → ∃ text reply, a = h.write name text reply := by
  have quiet {t : List (Program.Asked Agent.Query.Answer)} (ht : ∀ a ∈ t, isWrite a = false) :
      ∀ a ∈ t, isWrite a = true → ∃ text reply, a = h.write name text reply :=
    fun a ha hw => absurd ((ht a ha).symm.trans hw) Bool.false_ne_true
  have written (text : String) (reply : Except StoreError Unit)
      {t : List (Program.Asked Agent.Query.Answer)} (ht : ∀ a ∈ t, isWrite a = false) :
      ∀ a ∈ h.write name text reply :: t, isWrite a = true →
        ∃ text reply, a = h.write name text reply :=
    List.forall_mem_cons.mpr ⟨fun _ => ⟨text, reply, rfl⟩, quiet ht⟩
  have hbefore := quiet (t := h.beforeWrite name) (by simp [beforeWrite, isWrite])
  have hsettled : ∀ a ∈ h.untilSettled name status, isWrite a = true →
      ∃ text reply, a = h.write name text reply :=
    List.forall_mem_append.mpr ⟨hbefore, written _ _ (by simp [isWrite])⟩
  cases he with
  | noName | noStatus => exact fun a ha => absurd ha List.not_mem_nil
  | noConnection | unread => exact quiet (by simp [isWrite])
  | unwritten => exact List.forall_mem_append.mpr ⟨hbefore, written _ _ (by simp)⟩
  | unchecked => exact List.forall_mem_append.mpr ⟨hbefore, written _ _ (by simp [isWrite])⟩
  | rolledBack _ _ hs | stuck _ _ hs =>
    exact List.forall_mem_append.mpr ⟨hsettled,
      List.forall_mem_append.mpr ⟨quiet hs.noWrite, written _ _ (by simp)⟩⟩
  | changed _ _ hs => exact List.forall_mem_append.mpr ⟨hsettled, quiet hs.noWrite⟩

theorem StateRead.read_last {fields : Hash} {n : Nat} {asked : List (Program.Asked Agent.Query.Answer)}
    (hs : h.StateRead name (.ok fields) n asked) :
    fields = h.content.hash (some .state) (stateKey name) ∧ ∃ k first, k.database = .state ∧
      asked = [first, ⟨.command k (.fields (stateKey name)), .ok fields⟩] := by
  cases hs with
  | read => exact ⟨rfl, _, _, rfl, rfl⟩

theorem Exit.content_eq {r : Except Status Interface} {c : Content}
    {asked : List (Program.Asked Agent.Query.Answer)} (he : h.Exit name status r c asked) :
    c = h.content ∨ ∃ text, c = h.withAdmin name text := by
  cases he with
  | unchecked | rolledBack | stuck | changed => exact .inr ⟨_, rfl⟩
  | _ => exact .inl rfl

theorem Exit.read_last {i : Interface} {c : Content} {asked : List (Program.Asked Agent.Query.Answer)}
    (he : h.Exit name status (.ok i) c asked) :
    c = h.withAdmin name status.text ∧ ∃ before k, k.database = .state ∧
      asked = before ++
        [⟨.command k (.fields (stateKey name)), .ok (c.hash (some .state) (stateKey name))⟩] ∧
      h.write name status.text (.ok ()) ∈ before ∧
      i = ⟨name, "", .ofField (Hash.text (c.hash (some .state) (stateKey name)) operationalField),
        status⟩ := by
  cases he with
  | changed hw h3 hs =>
    have hwritten : h.write name status.text (.ok ()) ∈ h.untilSettled name status :=
      List.mem_append_right _ List.mem_cons_self
    obtain ⟨rfl, k, first, hk, rfl⟩ := hs.read_last
    refine ⟨rfl, h.untilSettled name status ++ [first], k, hk, ?_, List.mem_append_left _ hwritten, rfl⟩
    rw [List.append_assoc]
    rfl

theorem ofField_text_eq (fields : Hash) (field : String) :
    LineStatus.ofField (Hash.text fields field) =
      if Keyed.get? field fields = some "up" then .up else .down := by
  unfold LineStatus.ofField Hash.text
  rcases Keyed.get? field fields with _ | text <;> simp

variable (h name) in
theorem runs_refused (hbad : name = "" ∨ status = .unknown) :
    ∃ message, h.Runs (setAdminStatus name status) (.error (.badRequest message)) h [] := by
  by_cases hn : name = ""
  · subst hn
    exact ⟨_, .bind_error (.throw _ _)⟩
  · exact ⟨_, (runs_requireName hn).bind_ok (.ite_pos (hbad.resolve_left hn) (.bind_error (.throw _ _)))⟩

variable (h name status) in
/-- **Changes of the admin status.** This is certain about every change, whichever calls of the store
fail. -/
theorem change_accounted :
    h.Accounted name status (h.attempt (setAdminStatus name status)).1
      (h.attempt (setAdminStatus name status)).2 (h.asked (setAdminStatus name status)) := by
  obtain ⟨r, h', c, asked, hr, rfl, he⟩ := h.exit_setAdminStatus name status
  have hrefused (hbad : name = "" ∨ status = .unknown) :
      asked = [] ∧ ∃ message, r = .error (.badRequest message) := by
    obtain ⟨message, hm⟩ := h.runs_refused name hbad
    obtain ⟨rfl, -⟩ := Prod.mk.inj (hr.run_eq.symm.trans hm.run_eq)
    exact ⟨hr.trace_eq.symm.trans hm.trace_eq, message, rfl⟩
  rw [hr.attempt_eq, hr.asked_eq]
  refine ⟨hrefused, he.writes, ?_, fun i hi => ?_, fun s hs => ?_⟩
  · rcases he.content_eq with hc | ⟨text, hc⟩ <;> rw [hc]
    · exact .refl ..
    · exact Content.sameApart_setField
  · subst hi
    obtain ⟨hc, before, k, hk, hasked, hwritten, rfl⟩ := he.read_last
    exact ⟨admin?_of_withAdmin hc, rfl, rfl, rfl, before, k, _, hk, rfl, hasked, hwritten,
      ofField_text_eq ..⟩
  · rcases he.faults_eq with hnone | ⟨s', t, reply, hone, hcode, hasked, hreply⟩
    · rw [hnone] at hs
      cases hs
    · rw [hone] at hs
      obtain rfl := List.mem_singleton.mp hs
      refine ⟨h.untilSettled name status ++ t, h.former name, reply, ?_, ?_, rfl, ?_⟩
      · rw [hasked, List.append_assoc]
      · simp [untilSettled, beforeWrite]
      · rcases hreply with ⟨rfl, hr, hc⟩ | ⟨e, rfl, hr, hc⟩
        · exact ⟨hr, hcode, admin?_of_withAdmin hc⟩
        · exact ⟨hr, admin?_of_withAdmin hc⟩

end SwitchFleet.Host
