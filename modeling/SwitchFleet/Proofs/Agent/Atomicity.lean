import SwitchFleet.Proofs.Agent.AdminStatus

/-!
# Changes that fail

When a failed change of the admin status leaves the configured interfaces as they were. The old status
is written back only where the state cannot be read, and a status that was missing is written back as
an empty text.

* **`sameFields_of_failed`**: the exact condition, for changes none of whose writes fails.
* `failed_kept`: two failed changes that leave something behind.
-/

namespace SwitchFleet.Host

open Agent

/-- A write, whether it fails or not. -/
def isWrite : Program.Asked Agent.Query.Answer → Bool
  | ⟨.command _ (.setField ..), _⟩ => true
  | _ => false

/-- A write that fails. -/
def isFailedWrite : Program.Asked Agent.Query.Answer → Bool
  | ⟨.command _ (.setField ..), .error _⟩ => true
  | _ => false

/-- A look for a key that fails. -/
def isFailedCheck : Program.Asked Agent.Query.Answer → Bool
  | ⟨.command _ (.has _), .error _⟩ => true
  | _ => false

variable (h : Host) (name : String) (status : LineStatus)

variable {h name status}

theorem sameFields_withAdmin (text : String) :
    h.content.SameFields configuration (h.withAdmin name text) ↔ h.admin? name = some text :=
  Content.sameFields_setField

theorem admin?_eq_former :
    h.admin? name = some (Hash.text (h.former name) adminField) ↔ (h.admin? name).isSome := by
  change Keyed.get? adminField (h.former name) = some ((Keyed.get? adminField (h.former name)).getD "")
    ↔ (Keyed.get? adminField (h.former name)).isSome = true
  cases Keyed.get? adminField (h.former name) <;> simp

theorem StateRead.quiet {h : Host} {r : Except Status Hash} {n : Nat}
    {asked : List (Program.Asked Agent.Query.Answer)} (hs : h.StateRead name r n asked) :
    asked.any isFailedCheck = false ∧ asked.any isFailedWrite = false := by
  cases hs <;> exact ⟨rfl, rfl⟩

/-- **Changes that fail.** Where a change fails, but none of its writes, the configured interfaces are
as they were exactly if nothing was written, or the look for the key failed and the status was the
wanted one before, or that look succeeded and there was a status before. -/
theorem sameFields_of_failed {s : Status}
    (hs : (h.attempt (setAdminStatus name status)).1 = .error s)
    (hw : (h.asked (setAdminStatus name status)).any isFailedWrite = false) :
    h.content.SameFields configuration (h.attempt (setAdminStatus name status)).2.content ↔
      (h.asked (setAdminStatus name status)).any isWrite = false ∨
      ((h.asked (setAdminStatus name status)).any isFailedCheck = true ∧
        h.admin? name = some status.text) ∨
      ((h.asked (setAdminStatus name status)).any isFailedCheck = false ∧
        (h.admin? name).isSome = true) := by
  obtain ⟨r, h', c, asked, hr, hc, he⟩ := h.exit_setAdminStatus name status
  rw [hr.attempt_eq] at hs ⊢
  rw [hr.asked_eq] at hw ⊢
  rw [hc]
  cases he with
  | noName | noStatus | noConnection | unread => exact iff_of_true (.refl _ _) (.inl rfl)
  | unwritten => cases hw
  | @unchecked e _ _ =>
    have hcheck : (h.beforeWrite name ++ [h.write name status.text (.ok ()),
        ⟨.command h.writer (.has (configuredKey name)), .error e⟩]).any isFailedCheck = true := rfl
    rw [sameFields_withAdmin, hcheck]
    simp [isWrite, write]
  | @rolledBack _ _ asked _ _ hread _ =>
    have hcheck : (h.untilSettled name status ++ (asked ++ [h.write name
        (Hash.text (h.former name) adminField) (.ok ())])).any isFailedCheck = false := by
      rw [List.any_append, List.any_append, hread.quiet.1]
      rfl
    rw [sameFields_withAdmin, admin?_eq_former, hcheck]
    simp [isWrite, write]
  | stuck _ _ hs => simp [isFailedWrite, write] at hw
  | changed => cases hs

/-! ## What failed changes leave behind -/

/-- A device with an interface that is up, the fourth call to whose store fails. -/
def uncheckable : Host where
  content := Content.empty.setFields configuration "PORT|Ethernet0" [("admin_status", "up")]
  links _ := .ok none
  manifest := none
  turns n := if n = 3 then .failing (.unavailable "timeout") else .smooth

/-- A device with an interface without an admin status, the sixth call to whose store fails. -/
def unreadable : Host where
  content := Content.empty.setFields configuration "PORT|Ethernet0" [("mtu", "9100")]
  links _ := .ok none
  manifest := none
  turns n := if n = 5 then .failing (.unavailable "timeout") else .smooth

/-- The general theorem where the look for the key fails: the interface is not as it was. -/
theorem not_sameFields_uncheckable :
    (∃ s, (uncheckable.attempt (setAdminStatus "Ethernet0" .down)).1 = .error s) ∧
      (uncheckable.asked (setAdminStatus "Ethernet0" .down)).any isFailedWrite = false ∧
      ¬ uncheckable.content.SameFields configuration
        (uncheckable.attempt (setAdminStatus "Ethernet0" .down)).2.content := by
  refine ⟨⟨_, rfl⟩, rfl, fun hs => ?_⟩
  have h := (@sameFields_of_failed uncheckable "Ethernet0" .down _ rfl rfl).mp hs
  revert h
  decide

/-- **Changes that are left behind.** Where the look for the key fails, the new status stays. Where the
state cannot be read, an interface without a status has an empty one afterwards. Neither of these
changes succeeds, and none of their writes fails. -/
theorem failed_kept :
    (uncheckable.attempt (setAdminStatus "Ethernet0" .down)).1 =
        .error ⟨Status.Code.keyCheckFailed,
          "failed to verify interface existence: store unavailable: timeout"⟩ ∧
      (uncheckable.asked (setAdminStatus "Ethernet0" .down)).any isFailedWrite = false ∧
      uncheckable.admin? "Ethernet0" = some "up" ∧
      (uncheckable.attempt (setAdminStatus "Ethernet0" .down)).2.admin? "Ethernet0" = some "down" ∧
      (unreadable.attempt (setAdminStatus "Ethernet0" .down)).1 =
        .error ⟨Status.Code.keyCheckFailed,
          "failed to get state info: store unavailable: timeout"⟩ ∧
      (unreadable.asked (setAdminStatus "Ethernet0" .down)).any isFailedWrite = false ∧
      unreadable.admin? "Ethernet0" = none ∧
      (unreadable.attempt (setAdminStatus "Ethernet0" .down)).2.admin? "Ethernet0" = some "" := by
  refine ⟨?_, ?_, ?_, ?_, ?_, ?_, ?_, ?_⟩ <;> rfl

end SwitchFleet.Host
