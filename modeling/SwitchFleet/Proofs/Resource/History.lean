import Mathlib.Data.List.Induction
import Mathlib.Data.List.Nodup
import SwitchFleet.Resource.Condition

/-!
# The history of conditions

Conditions are set one after another, and a list of them tells something about the whole history of its
changes: which types there were, in which order they came up, what was last said about each, and since when
it has been so. A list of conditions without a type twice is itself such a history.

* `Condition.setAll`: a list of conditions with others set in it, in order. `setAll_nil_of_nodup`: what a list
  without a type twice is when it is set from nothing.
* `types_set`, `find?_set`, `filter_set`: what setting one condition does to the types, to the condition of each
  type, and to the conditions of other types. `set_set`: set again, at another time, it changes nothing.
* `Condition.Stretch`: the last conditions of a history that are all of one truth, by the first and the last
  of them. `concat_same`, `concat_other`: one more condition makes the stretch longer, or starts another one.
* `find?_setAll`: the condition of each type, from its history.
* **`setAll_history`**: what a list holds after any conditions were set in it.
-/

namespace SwitchFleet

namespace Condition

/-! ## One condition -/

/-- A condition as it was last set, with the time from which it has been so. -/
def since (last first : Condition) : Condition :=
  { last with lastTransitionTime := first.lastTransitionTime }

theorem replacing_of_same {old new : Condition} (h : old.status = new.status) :
    replacing old new = new.since old := if_pos h

theorem replacing_of_other {old new : Condition} (h : old.status ≠ new.status) :
    replacing old new = new := if_neg h

@[simp]
theorem replacing_type (old new : Condition) : (replacing old new).type = new.type := by
  unfold replacing
  split <;> rfl

@[simp]
theorem replacing_status (old new : Condition) : (replacing old new).status = new.status := by
  unfold replacing
  split <;> rfl

theorem replacing_replacing (old new : Condition) (time : String) :
    replacing (replacing old new) { new with lastTransitionTime := time } = replacing old new := by
  have htime : new.since (replacing old new) = replacing old new := by
    unfold replacing
    split <;> rfl
  rw [replacing, if_pos (replacing_status old new)]
  exact htime

theorem set_set (conditions : List Condition) (new : Condition) (time : String) :
    set (set conditions new) { new with lastTransitionTime := time } = set conditions new := by
  induction conditions with
  | nil => simp [set, replacing]
  | cons old rest ih =>
    by_cases ht : old.type = new.type
    · have hfirst : set (old :: rest) new = replacing old new :: rest := if_pos ht
      rw [hfirst, set, if_pos (replacing_type old new), replacing_replacing]
    · have hlater : set (old :: rest) new = old :: set rest new := if_neg ht
      rw [hlater, set, if_neg ht, ih]

theorem types_set (conditions : List Condition) (new : Condition) :
    (set conditions new).map (·.type) =
      if new.type ∈ conditions.map (·.type) then conditions.map (·.type)
      else conditions.map (·.type) ++ [new.type] := by
  induction conditions with
  | nil => rfl
  | cons old rest ih =>
    by_cases ht : old.type = new.type
    · simp [set, ht]
    · have hother : ¬ new.type = old.type := fun h => ht h.symm
      simp only [set, if_neg ht, List.map_cons, ih, List.mem_cons, hother, false_or]
      split <;> rfl

theorem set_of_notMem {conditions : List Condition} {new : Condition}
    (h : new.type ∉ conditions.map (·.type)) : set conditions new = conditions ++ [new] := by
  induction conditions with
  | nil => rfl
  | cons old rest ih =>
    simp only [List.map_cons, List.mem_cons, not_or] at h
    rw [set, if_neg fun ht => h.1 ht.symm, ih h.2]
    rfl

theorem find?_set (conditions : List Condition) (new : Condition) (type : String) :
    find? (set conditions new) type =
      if new.type = type then
        some (match find? conditions type with
          | some old => replacing old new
          | none => new)
      else find? conditions type := by
  induction conditions with
  | nil => by_cases ht : new.type = type <;> simp [set, find?, ht]
  | cons old rest ih =>
    by_cases ho : old.type = new.type
    · by_cases hn : new.type = type <;> simp [set, find?, ho, hn]
    · by_cases hot : old.type = type
      · have hn : ¬ new.type = type := fun h => ho (hot.trans h.symm)
        rw [set, if_neg ho, if_neg hn]
        simp [find?, hot]
      · simpa [set, find?, ho, hot] using ih

theorem exists_find?_set (conditions : List Condition) (new : Condition) :
    ∃ time, find? (set conditions new) new.type = some { new with lastTransitionTime := time } := by
  rw [find?_set, if_pos rfl]
  cases find? conditions new.type with
  | none => exact ⟨new.lastTransitionTime, rfl⟩
  | some old =>
    by_cases hsame : old.status = new.status
    · exact ⟨old.lastTransitionTime, congrArg some (replacing_of_same hsame)⟩
    · exact ⟨new.lastTransitionTime, congrArg some (replacing_of_other hsame)⟩

/-- **Conditions of other types** stay as they are, where they are. -/
theorem filter_set (conditions : List Condition) (new : Condition) :
    (set conditions new).filter (·.type != new.type) =
      conditions.filter (·.type != new.type) := by
  induction conditions with
  | nil => simp [set]
  | cons old rest ih =>
    by_cases ht : old.type = new.type
    · simp [set, ht]
    · simp only [set, if_neg ht, List.filter_cons, ih]

/-! ## Types -/

/-- A list of conditions with others set in it, one after another. -/
def setAll (conditions calls : List Condition) : List Condition :=
  calls.foldl set conditions

theorem setAll_concat (conditions calls : List Condition) (new : Condition) :
    setAll conditions (calls ++ [new]) = set (setAll conditions calls) new := by
  rw [setAll, List.foldl_append]
  rfl

theorem eraseDups_concat (texts : List String) (text : String) :
    (texts ++ [text]).eraseDups =
      if text ∈ texts then texts.eraseDups else texts.eraseDups ++ [text] := by
  rw [List.eraseDups_append]
  by_cases hmem : text ∈ texts
  · simp [List.removeAll, hmem]
  · simp [List.removeAll, hmem, List.eraseDups_cons]

theorem types_setAll (calls : List Condition) :
    (setAll [] calls).map (·.type) = (calls.map (·.type)).eraseDups := by
  induction calls using List.reverseRecOn with
  | nil => rfl
  | append_singleton calls new ih =>
    rw [setAll_concat, types_set, ih, List.map_append, List.map_singleton, eraseDups_concat]
    simp only [List.mem_eraseDups]

theorem nodup_setAll (calls : List Condition) : ((setAll [] calls).map (·.type)).Nodup := by
  induction calls using List.reverseRecOn with
  | nil => exact List.nodup_nil
  | append_singleton calls new ih =>
    rw [setAll_concat, types_set]
    split
    · exact ih
    · next hnew => exact List.nodup_append_comm.mp (List.nodup_cons.mpr ⟨hnew, ih⟩)

theorem setAll_nil_of_nodup {conditions : List Condition}
    (h : (conditions.map (·.type)).Nodup) : setAll [] conditions = conditions := by
  induction conditions using List.reverseRecOn with
  | nil => rfl
  | append_singleton earlier new ih =>
    simp only [List.map_append, List.map_singleton, List.nodup_append] at h
    rw [setAll_concat, ih h.1, set_of_notMem]
    intro hmem
    exact h.2.2 _ hmem _ (List.mem_singleton_self _) rfl

/-- Conditions are set in a list as if those in it had been set before. -/
theorem setAll_eq {conditions : List Condition} (h : (conditions.map (·.type)).Nodup)
    (calls : List Condition) : setAll conditions calls = setAll [] (conditions ++ calls) := by
  rw [setAll, setAll, List.foldl_append]
  exact congrArg (List.foldl set · calls) (setAll_nil_of_nodup h).symm

/-! ## Stretches of one truth -/

/-- The last conditions of a history that are all of one truth are those from `first` to `last`. -/
def Stretch (history : List Condition) (first last : Condition) : Prop :=
  ∃ earlier stretch, history = earlier ++ stretch ∧
    stretch.head? = some first ∧ stretch.getLast? = some last ∧
    (∀ c ∈ stretch, c.status = last.status) ∧
    ∀ before, earlier.getLast? = some before → before.status ≠ last.status

namespace Stretch

variable {history earlier stretch earlier' stretch' : List Condition}
  {first last first' last' new : Condition}

theorem getLast? (h : Stretch history first last) : history.getLast? = some last := by
  obtain ⟨earlier, stretch, rfl, -, hlast, -⟩ := h
  rw [List.getLast?_append, hlast]
  rfl

theorem concat_same (h : Stretch history first last) (hsame : last.status = new.status) :
    Stretch (history ++ [new]) first new := by
  obtain ⟨earlier, stretch, rfl, hfirst, -, hall, hbreak⟩ := h
  refine ⟨earlier, stretch ++ [new], List.append_assoc .., ?_, ?_, ?_, ?_⟩
  · rw [List.head?_append, hfirst]
    rfl
  · exact List.getLast?_concat
  · intro c hc
    rcases List.mem_append.mp hc with hc | hc
    · exact (hall c hc).trans hsame
    · rw [List.mem_singleton.mp hc]
  · exact fun before hb => hsame ▸ hbreak before hb

/-- One more condition of another truth starts a stretch, and so does the first condition of all. -/
theorem concat_other (h : ∀ old, history.getLast? = some old → old.status ≠ new.status) :
    Stretch (history ++ [new]) new new :=
  ⟨history, [new], rfl, rfl, rfl, fun _ hc => List.mem_singleton.mp hc ▸ rfl, h⟩

theorem eq_nil_of_break (hall : ∀ c ∈ stretch, c.status = last.status)
    (hbreak : ∀ before, (earlier ++ stretch).getLast? = some before → before.status ≠ last.status) :
    stretch = [] := by
  rcases stretch.eq_nil_or_concat' with hnil | ⟨init, c, rfl⟩
  · exact hnil
  · rw [← List.append_assoc, List.getLast?_concat] at hbreak
    exact absurd (hall c (List.mem_append_right _ (List.mem_singleton_self c))) (hbreak c rfl)

theorem unique (h : Stretch history first last) (h' : Stretch history first' last') :
    first = first' ∧ last = last' := by
  have hlast : last = last' := Option.some.inj (h.getLast?.symm.trans h'.getLast?)
  subst hlast
  refine ⟨Option.some.inj ?_, rfl⟩
  obtain ⟨earlier, stretch, rfl, hfirst, -, hall, hbreak⟩ := h
  obtain ⟨earlier', stretch', heq, hfirst', -, hall', hbreak'⟩ := h'
  rcases List.append_eq_append_iff.mp heq with ⟨more, rfl, rfl⟩ | ⟨more, rfl, rfl⟩
  · rw [eq_nil_of_break (fun c hc => hall c (List.mem_append_left _ hc)) hbreak'] at hfirst
    exact hfirst.symm.trans hfirst'
  · rw [eq_nil_of_break (fun c hc => hall' c (List.mem_append_left _ hc)) hbreak] at hfirst'
    exact hfirst.symm.trans hfirst'

end Stretch

/-! ## The condition of a type -/

/-- **The condition of a type** is the last one that was set, since the first one of its stretch. -/
theorem find?_setAll (calls : List Condition) (type : String) :
    find? (setAll [] calls) type = none ∧ calls.filter (·.type == type) = [] ∨
      ∃ first last, Stretch (calls.filter (·.type == type)) first last ∧
        find? (setAll [] calls) type = some (last.since first) := by
  -- The last call is the one that acts on what the others left, so the induction takes calls from the end.
  induction calls using List.reverseRecOn with
  | nil => exact .inl ⟨rfl, rfl⟩
  | append_singleton calls new ih =>
    rw [setAll_concat, find?_set, List.filter_append]
    by_cases htype : new.type = type
    · have hnew : [new].filter (·.type == type) = [new] := by simp [htype]
      rw [if_pos htype, hnew]
      right
      obtain ⟨hfound, hnone⟩ | ⟨first, last, hstretch, hfound⟩ := ih
      · rw [hfound, hnone]
        exact ⟨new, new, .concat_other (fun _ h => nomatch h), rfl⟩
      · rw [hfound]
        by_cases hsame : (last.since first).status = new.status
        · exact ⟨first, new, hstretch.concat_same hsame, congrArg some (replacing_of_same hsame)⟩
        · refine ⟨new, new, .concat_other fun old hold => ?_,
            congrArg some (replacing_of_other hsame)⟩
          rwa [← Option.some.inj (hstretch.getLast?.symm.trans hold)]
    · have hnew : [new].filter (·.type == type) = [] := by simp [htype]
      rwa [if_neg htype, hnew, List.append_nil]

theorem find?_eq_some_iff {conditions : List Condition}
    (hdistinct : (conditions.map (·.type)).Nodup) (c : Condition) :
    find? conditions c.type = some c ↔ c ∈ conditions := by
  refine ⟨List.mem_of_find?_eq_some, fun hc => ?_⟩
  induction conditions with
  | nil => exact nomatch hc
  | cons old rest ih =>
    rw [List.map_cons, List.nodup_cons] at hdistinct
    rcases List.mem_cons.mp hc with rfl | hc
    · simp [find?]
    · have hother : ¬ old.type = c.type :=
        fun h => hdistinct.1 (h ▸ List.mem_map_of_mem hc)
      simpa [find?, hother] using ih hdistinct.2 hc

/-- **The history of conditions.** Any conditions are set in a list without a type twice. There is no type
twice in the outcome, and the types are those of the list and then the new ones, in the order in which they
came up. A condition that is set next leaves those of other types as they are. And the list holds, for each
type, what was last set or given for it, since the first of the last ones of that type that are all of one
truth. -/
theorem setAll_history (conditions calls : List Condition)
    (hdistinct : (conditions.map (·.type)).Nodup) :
    ((setAll conditions calls).map (·.type)).Nodup ∧
    (setAll conditions calls).map (·.type) =
      (conditions.map (·.type) ++ calls.map (·.type)).eraseDups ∧
    (∀ new : Condition, (set (setAll conditions calls) new).filter (·.type != new.type) =
      (setAll conditions calls).filter (·.type != new.type)) ∧
    ∀ c, c ∈ setAll conditions calls ↔ ∃ first last,
      Stretch ((conditions ++ calls).filter (·.type == c.type)) first last ∧
        c = { last with lastTransitionTime := first.lastTransitionTime } := by
  have hall := setAll_eq hdistinct calls
  have hnodup : ((setAll conditions calls).map (·.type)).Nodup :=
    hall ▸ nodup_setAll (conditions ++ calls)
  refine ⟨hnodup, ?_, filter_set _, fun c => ?_⟩
  · rw [hall, types_setAll, List.map_append]
  · rw [← find?_eq_some_iff hnodup, hall]
    obtain ⟨hfound, hnone⟩ | ⟨first, last, hstretch, hfound⟩ :=
      find?_setAll (conditions ++ calls) c.type
    · rw [hfound, hnone]
      refine ⟨nofun, ?_⟩
      rintro ⟨first, last, hstretch, -⟩
      exact nomatch hstretch.getLast?
    · rw [hfound]
      constructor
      · intro h
        exact ⟨first, last, hstretch, (Option.some.inj h).symm⟩
      · rintro ⟨first', last', hstretch', hc⟩
        obtain ⟨rfl, rfl⟩ := hstretch.unique hstretch'
        exact congrArg some hc.symm

/-- A resource that was ready, failed, became ready again and stayed so is ready since it became so again. -/
theorem setAll_regained :
    ([ready true "Reconciled" "" "1" none].map (·.type)).Nodup ∧
    ready true "Reconciled" "" "3" none ∈
      setAll [ready true "Reconciled" "" "1" none]
        [ready false "Error" "no answer" "2" none, ready true "Reconciled" "" "3" none,
          ready true "Reconciled" "" "4" none] := by
  have hdistinct : ([ready true "Reconciled" "" "1" none].map (·.type)).Nodup := by decide
  have hstretch : Stretch
      [ready true "Reconciled" "" "1" none, ready false "Error" "no answer" "2" none,
        ready true "Reconciled" "" "3" none, ready true "Reconciled" "" "4" none]
      (ready true "Reconciled" "" "3" none) (ready true "Reconciled" "" "4" none) :=
    ⟨[ready true "Reconciled" "" "1" none, ready false "Error" "no answer" "2" none],
      [ready true "Reconciled" "" "3" none, ready true "Reconciled" "" "4" none],
      rfl, rfl, rfl, by decide, fun _ h => Option.some.inj h ▸ by decide⟩
  exact ⟨hdistinct, ((setAll_history _ _ hdistinct).2.2.2 _).mpr ⟨_, _, hstretch, rfl⟩⟩

end Condition

end SwitchFleet
