import SwitchFleet.Proofs.Agent.Host

/-!
# Changes of the admin status, call by call

* `Host.Writes`: a change of the admin status comes as far as writing.
* `Host.Exit`: the ways in which a change ends, each with its outcome, what is stored afterwards, and
  the questions that were asked.
* **`exit_setAdminStatus`**: there are no other ways. In particular, the key is found after every
  write, so an interface is never reported as missing.
-/

namespace SwitchFleet.Host

open Agent

variable (h : Host) (name : String) (status : LineStatus)

/-- A change of the admin status comes as far as writing: it is well-formed, and none of its first
three calls fails. -/
structure Writes : Prop where
  named : name ≠ ""
  known : status ≠ .unknown
  connected : h.fault 0 = none
  read : h.fault 1 = none
  written : h.fault 2 = none

instance : Decidable (h.Writes name status) :=
  decidable_of_iff
    (name ≠ "" ∧ status ≠ .unknown ∧ h.fault 0 = none ∧ h.fault 1 = none ∧ h.fault 2 = none)
    ⟨fun ⟨h₁, h₂, h₃, h₄, h₅⟩ => ⟨h₁, h₂, h₃, h₄, h₅⟩,
      fun ⟨h₁, h₂, h₃, h₄, h₅⟩ => ⟨h₁, h₂, h₃, h₄, h₅⟩⟩

/-- The connection that a change writes on. -/
def writer : Connection := h.connection Database.configurationName .configuration

/-- The fields of an interface before a change. -/
def former : Hash := h.content.hash configuration (configuredKey name)

/-- The admin status of an interface in the store, if there is one. -/
def admin? : Option String := h.content.field configuration (configuredKey name) adminField

/-- What is stored when the admin status of an interface is set to a text. -/
def withAdmin (text : String) : Content :=
  h.content.setField configuration (configuredKey name) adminField text

/-- A write of the admin status, with its answer. -/
def write (text : String) (r : Except StoreError Unit) : Program.Asked Agent.Query.Answer :=
  ⟨.command h.writer (.setField (configuredKey name) adminField text), r⟩

/-- What a change asks before it writes. -/
def beforeWrite : List (Program.Asked Agent.Query.Answer) :=
  [⟨.database Database.configurationName, .ok h.writer⟩,
    ⟨.command h.writer (.fields (configuredKey name)), .ok (h.former name)⟩]

/-- What a change asks until it waits for the device. -/
def untilSettled : List (Program.Asked Agent.Query.Answer) :=
  h.beforeWrite name ++ [h.write name status.text (.ok ()),
    ⟨.command h.writer (.has (configuredKey name)), .ok true⟩, ⟨.settle, ()⟩]

/-! ## The state after a change -/

/-- The attempt to read the state of an interface: it is read, or one of its two calls fails. -/
inductive StateRead : Except Status Hash → Nat → List (Program.Asked Agent.Query.Answer) → Prop
  | unreachable {e : StoreError} (hf : h.fault 0 = some e) :
    StateRead
      (.error (failure Status.Code.badRequest ("failed to connect to " ++ Database.stateName) e)) 1
      [⟨.database Database.stateName, .error e⟩]
  | unread {e : StoreError} (hf : h.fault 0 = none) (hr : h.fault 1 = some e) :
    StateRead (.error (failure Status.Code.keyCheckFailed "failed to get state info" e)) 2
      [⟨.database Database.stateName, .ok (h.connection Database.stateName .state)⟩,
        ⟨.command (h.connection Database.stateName .state) (.fields (stateKey name)), .error e⟩]
  | read (hf : h.fault 0 = none) (hr : h.fault 1 = none) :
    StateRead (.ok (h.content.hash (some .state) (stateKey name))) 2
      [⟨.database Database.stateName, .ok (h.connection Database.stateName .state)⟩,
        ⟨.command (h.connection Database.stateName .state) (.fields (stateKey name)),
          .ok (h.content.hash (some .state) (stateKey name))⟩]

theorem runs_stateAfterChange :
    ∃ r n asked, h.StateRead name r n asked ∧
      h.Runs (stateAfterChange name) r (h.skip n) asked := by
  rcases h0 : h.fault 0 with _ | e
  · have hc := runs_database (h := h) Database.stateName .state rfl h0
    rcases h1 : h.fault 1 with _ | e
    · exact ⟨_, _, _, .read h0 h1, hc.bind_ok (runs_command (h.next.execute_fields _ _ h1))⟩
    · exact ⟨_, _, _, .unread h0 h1, hc.bind_ok (runs_command_fault (h := h.next) h1)⟩
  · exact ⟨_, _, _, .unreachable h0, (runs_database_fault h0).bind_error⟩

/-! ## All ways to end -/

/-- The device that a change waits for. -/
def settled : Host := (h.store (h.withAdmin name status.text)).skip 4

/-- The ways in which a change of the admin status ends: its outcome, what is stored afterwards, and
the questions that were asked. -/
inductive Exit :
    Except Status Interface → Content → List (Program.Asked Agent.Query.Answer) → Prop
  | noName (hn : name = "") :
    Exit (.error (.badRequest "interface name cannot be empty")) h.content []
  | noStatus (hn : name ≠ "") (hs : status = .unknown) :
    Exit (.error (.badRequest "invalid admin status unknown, it has to be 'up' or 'down'"))
      h.content []
  | noConnection {e : StoreError} (h0 : h.fault 0 = some e) :
    Exit
      (.error
        (failure Status.Code.badRequest ("failed to connect to " ++ Database.configurationName) e))
      h.content [⟨.database Database.configurationName, .error e⟩]
  | unread {e : StoreError} (h1 : h.fault 1 = some e) :
    Exit (.error (failure Status.Code.keyCheckFailed "failed to get current admin status" e))
      h.content
      [⟨.database Database.configurationName, .ok h.writer⟩,
        ⟨.command h.writer (.fields (configuredKey name)), .error e⟩]
  | unwritten {e : StoreError} (h2 : h.fault 2 = some e) :
    Exit (.error (failure Status.Code.writeFailed "failed to set admin status" e)) h.content
      (h.beforeWrite name ++ [h.write name status.text (.error e)])
  | unchecked {e : StoreError} (hw : h.Writes name status) (h3 : h.fault 3 = some e) :
    Exit (.error (failure Status.Code.keyCheckFailed "failed to verify interface existence" e))
      (h.withAdmin name status.text)
      (h.beforeWrite name ++ [h.write name status.text (.ok ()),
        ⟨.command h.writer (.has (configuredKey name)), .error e⟩])
  | rolledBack {s : Status} {n : Nat} {asked : List (Program.Asked Agent.Query.Answer)}
    (hw : h.Writes name status) (h3 : h.fault 3 = none)
    (hs : (h.settled name status).StateRead name (.error s) n asked)
    (hr : ((h.settled name status).skip n).fault 0 = none) :
    Exit (.error s) (h.withAdmin name (Hash.text (h.former name) adminField))
      (h.untilSettled name status ++
        (asked ++ [h.write name (Hash.text (h.former name) adminField) (.ok ())]))
  | stuck {s : Status} {n : Nat} {asked : List (Program.Asked Agent.Query.Answer)} {e : StoreError}
    (hw : h.Writes name status) (h3 : h.fault 3 = none)
    (hs : (h.settled name status).StateRead name (.error s) n asked)
    (hr : ((h.settled name status).skip n).fault 0 = some e) :
    Exit (.error (failure Status.Code.writeFailed "failed to rollback admin status" e))
      (h.withAdmin name status.text)
      (h.untilSettled name status ++
        (asked ++ [h.write name (Hash.text (h.former name) adminField) (.error e)]))
  | changed {state : Hash} {n : Nat} {asked : List (Program.Asked Agent.Query.Answer)}
    (hw : h.Writes name status) (h3 : h.fault 3 = none)
    (hs : (h.settled name status).StateRead name (.ok state) n asked) :
    Exit (.ok ⟨name, "", .ofField (state.text operationalField), status⟩)
      (h.withAdmin name status.text) (h.untilSettled name status ++ asked)

variable {h name status}

theorem runs_requireName (hn : name ≠ "") : h.Runs (requireName name) (.ok ()) h [] :=
  .ite_neg (by simpa using hn) (.pure _ _)

variable (h name status)

/-- **A change ends in one of these ways.** -/
theorem exit_setAdminStatus :
    ∃ r h' c asked, h.Runs (setAdminStatus name status) r h' asked ∧ h'.content = c ∧
      h.Exit name status r c asked := by
  by_cases hn : name = ""
  · subst hn
    exact ⟨_, h, _, _, .bind_error (.throw _ _), rfl, .noName rfl⟩
  have hname := runs_requireName (h := h) hn
  by_cases hs : status = .unknown
  · exact ⟨_, h, _, _, hname.bind_ok (.ite_pos hs (.bind_error (.throw _ _))), rfl,
      .noStatus hn hs⟩
  have start {r h' asked} (hr : h.Runs _ r h' asked) :
      h.Runs (setAdminStatus name status) r h' asked := hname.bind_ok (.ite_neg hs hr)
  rcases h0 : h.fault 0 with _ | e
  case some =>
    exact ⟨_, _, _, _, start (runs_database_fault h0).bind_error, rfl, .noConnection h0⟩
  have hconnect := runs_database (h := h) Database.configurationName .configuration rfl h0
  rcases h1 : h.fault 1 with _ | e
  case some =>
    exact ⟨_, _, _, _, start (hconnect.bind_ok (runs_command_fault (h := h.next) h1).bind_error), rfl,
      .unread h1⟩
  have hread := h.next.execute_fields h.writer (configuredKey name) h1
  rcases h2 : h.fault 2 with _ | e
  case some =>
    exact ⟨_, _, _, _, start (hconnect.bind_ok ((runs_command hread).bind_ok
      (runs_command_fault (h := h.next.next) h2).bind_error)), rfl, .unwritten h2⟩
  have hw : h.Writes name status := ⟨hn, hs, h0, h1, h2⟩
  have hwrite := h.next.next.execute_setField h.writer (configuredKey name) adminField status.text
    h2
  rcases h3 : h.fault 3 with _ | e
  case some =>
    exact ⟨_, _, _, _, start (hconnect.bind_ok ((runs_command hread).bind_ok ((runs_command hwrite).bind_ok
      (runs_command_fault (h := h.next.next.next.store _) h3).bind_error))), rfl, .unchecked hw h3⟩
  -- the key is found, since it has just been written
  have hfound : (h.withAdmin name status.text).has configuration (configuredKey name) = true := by
    simp [withAdmin]
  have hhas := (h.next.next.next.store (h.withAdmin name status.text)).execute_has h.writer
    (configuredKey name) h3
  rw [store_content, show some h.writer.database = configuration from rfl, hfound] at hhas
  have hsettle := Program.Runs.query (ε := Status) answer .settle
    (h.settled name status)
  have begun {r h' asked} (hr : (h.settled name status).Runs _ r h' asked) :
      h.Runs (setAdminStatus name status) r h' (h.untilSettled name status ++ asked) :=
    start (hconnect.bind_ok ((runs_command hread).bind_ok ((runs_command hwrite).bind_ok
      ((runs_command hhas).bind_ok (.ite_neg (by simp) (hsettle.bind_ok hr))))))
  obtain ⟨r, n, asked, hs', hr⟩ := runs_stateAfterChange (h.settled name status) name
  rcases r with s | state
  case ok =>
    exact ⟨_, _, _, _, begun hr.tryCatch_ok.bind_pure, rfl, .changed hw h3 hs'⟩
  have hagain : (h.settled name status).content.setField (some h.writer.database)
      (configuredKey name) adminField (Hash.text (h.former name) adminField) =
      h.withAdmin name (Hash.text (h.former name) adminField) :=
    Content.setField_setField ..
  rcases h4 : ((h.settled name status).skip n).fault 0 with _ | e
  case some =>
    exact ⟨_, _, _, _, begun (hr.tryCatch_error (runs_command_fault h4).bind_error).bind_error, rfl,
      .stuck hw h3 hs' h4⟩
  have hback := ((h.settled name status).skip n).execute_setField h.writer (configuredKey name)
    adminField (Hash.text (h.former name) adminField) h4
  rw [skip_content, hagain] at hback
  exact ⟨_, _, _, _, begun (hr.tryCatch_error (runs_command hback).bind_throw).bind_error, rfl,
    .rolledBack hw h3 hs' h4⟩

variable {h name status}

theorem Exit.code_mem {s : Status} {c : Content}
    {asked : List (Program.Asked Agent.Query.Answer)}
    (he : h.Exit name status (.error s) c asked) :
    s.code ∈ [Status.Code.badRequest, Status.Code.writeFailed, Status.Code.keyCheckFailed] := by
  cases he with
  | rolledBack _ _ hs => cases hs <;> simp [Agent.failure]
  | _ => simp [Agent.failure, Status.badRequest]

end SwitchFleet.Host
