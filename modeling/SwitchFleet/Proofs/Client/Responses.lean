import SwitchFleet.Client.Call

/-!
# Responses

There may be no response to a call, or one with any code and any body.

* `Client.Tells`, `Client.Misses`: responses that tell a report, and responses that say that something is
  missing.
* **`interpret_eq_ok_iff`**: a call succeeds exactly if the response tells its report.
  `interpret_isNotFound_iff`: it finds something missing exactly if the response says so.
-/

namespace SwitchFleet

namespace Client

variable {k : Operation.Kind}

/-- A response reports success, and its body can be read as a reply. -/
def Reads (k : Operation.Kind) (response : Option Http.Response) (reply : Reply k.Report) : Prop :=
  ∃ r, response = some r ∧ r.isSuccess = true ∧ (Reply.codec k.codec).decodeText r.body = .ok reply

/-- A response can be read, and has the code of success and a report. -/
def Tells (k : Operation.Kind) (response : Option Http.Response) (x : k.Report) : Prop :=
  ∃ reply, Reads k response reply ∧ reply.status.code = Status.Code.success ∧ reply.data = some x

/-- A response can be read, and has the code of what is missing. -/
def Misses (k : Operation.Kind) (response : Option Http.Response) : Prop :=
  ∃ reply, Reads k response reply ∧ reply.status.code = Status.Code.notFound

theorem Reads.unique {response : Option Http.Response} {reply reply' : Reply k.Report}
    (h : Reads k response reply) (h' : Reads k response reply') : reply = reply' := by
  obtain ⟨r, rfl, -, hbody⟩ := h
  obtain ⟨r', hr, -, hbody'⟩ := h'
  cases hr
  exact Except.ok.inj (hbody.symm.trans hbody')

theorem interpret_of_reads {base : String} {response : Option Http.Response} {reply : Reply k.Report}
    (h : Reads k response reply) : interpret base k response = outcome k reply := by
  obtain ⟨r, rfl, hsuccess, hbody⟩ := h
  unfold interpret
  dsimp only
  rw [if_pos hsuccess, hbody]

theorem interpret_of_not_reads (base : String) {response : Option Http.Response}
    (h : ∀ reply, ¬ Reads k response reply) :
    ∃ e, interpret base k response = .error e ∧ e.isNotFound = false := by
  rcases response with _ | r
  · exact ⟨_, rfl, rfl⟩
  unfold interpret
  dsimp only
  by_cases hsuccess : r.isSuccess = true
  · rw [if_pos hsuccess]
    rcases hbody : (Reply.codec k.codec).decodeText r.body with fault | reply
    · exact ⟨_, rfl, rfl⟩
    · exact absurd ⟨r, rfl, hsuccess, hbody⟩ (h reply)
  · rw [if_neg hsuccess]
    exact ⟨_, rfl, rfl⟩

theorem outcome_eq_ok_iff {reply : Reply k.Report} {x : k.Report} :
    outcome k reply = .ok x ↔ reply.status.code = Status.Code.success ∧ reply.data = some x := by
  unfold outcome Reply.result
  by_cases hok : reply.status.isOk = true
  · rw [if_pos hok]
    have hcode : reply.status.code = Status.Code.success := beq_iff_eq.mp hok
    rcases reply.data with _ | y
    · simp [hcode]
    · simp [hcode]
  · rw [if_neg hok]
    have hcode : reply.status.code ≠ Status.Code.success := fun h => hok (beq_iff_eq.mpr h)
    simp [hcode]

theorem outcome_isNotFound_iff {reply : Reply k.Report} :
    (∃ e, outcome k reply = .error e ∧ e.isNotFound = true) ↔
      reply.status.code = Status.Code.notFound := by
  unfold outcome Reply.result
  by_cases hok : reply.status.isOk = true
  · rw [if_pos hok]
    have hcode : reply.status.code = Status.Code.success := beq_iff_eq.mp hok
    have hne : Status.Code.success ≠ Status.Code.notFound := by decide
    rw [hcode]
    rcases reply.data with _ | y
    · refine iff_of_false ?_ hne
      rintro ⟨e, he, hn⟩
      cases he
      cases hn
    · refine iff_of_false ?_ hne
      rintro ⟨e, he, -⟩
      cases he
  · rw [if_neg hok]
    simp [ClientError.isNotFound, ClientError.code?]

theorem interpret_eq_ok_iff {base : String} {response : Option Http.Response} {x : k.Report} :
    interpret base k response = .ok x ↔ Tells k response x := by
  by_cases h : ∃ reply, Reads k response reply
  · obtain ⟨reply, hreads⟩ := h
    rw [interpret_of_reads hreads, outcome_eq_ok_iff]
    refine ⟨fun hx => ⟨reply, hreads, hx⟩, fun ⟨reply', hreads', hx⟩ => ?_⟩
    rwa [hreads.unique hreads']
  · have hnot (reply : Reply k.Report) : ¬ Reads k response reply := fun hr => h ⟨reply, hr⟩
    obtain ⟨e, he, -⟩ := interpret_of_not_reads base hnot
    rw [he]
    exact iff_of_false nofun fun ⟨reply, hreads, _⟩ => hnot reply hreads

theorem interpret_isNotFound_iff {base : String} {response : Option Http.Response} :
    (∃ e, interpret base k response = .error e ∧ e.isNotFound = true) ↔ Misses k response := by
  by_cases h : ∃ reply, Reads k response reply
  · obtain ⟨reply, hreads⟩ := h
    rw [interpret_of_reads hreads, outcome_isNotFound_iff]
    refine ⟨fun hx => ⟨reply, hreads, hx⟩, fun ⟨reply', hreads', hx⟩ => ?_⟩
    rwa [hreads.unique hreads']
  · have hnot (reply : Reply k.Report) : ¬ Reads k response reply := fun hr => h ⟨reply, hr⟩
    obtain ⟨e, he, hfound⟩ := interpret_of_not_reads base hnot
    rw [he]
    refine iff_of_false ?_ fun ⟨reply, hreads, _⟩ => hnot reply hreads
    rintro ⟨e', he', hn⟩
    cases he'
    cases hfound.symm.trans hn

end Client

end SwitchFleet
