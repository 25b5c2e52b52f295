import SwitchFleet.Proofs.Instant.Calendar
import SwitchFleet.Proofs.Json.Tokens

/-!
# Texts of instants

An instant is read back from its text.

* `Instant.Representable`: the instants in the range of years that are read.
* `Numeral`: a text as the digits of a number. `number?_append`: its number is read.
* `year?_yearText`: a year is read back.
* **`parse?_text`**: an instant is read back from its text.
-/

namespace SwitchFleet.Instant

/-- The instants of the years that are read. A leap second follows the last second of a minute. -/
structure Representable (t : Instant) : Prop where
  year_le : (dateOfDays (t.seconds.fdiv 86400)).1.natAbs ≤ 262142
  leap : t.leap = true → t.seconds % 60 = 59

/-! ## Numerals -/

/-- A text of digits, as a number. -/
structure Numeral (n : Nat) (digits : List Char) : Prop where
  isDigit : ∀ c ∈ digits, c.isDigit = true
  ne_nil : digits ≠ []
  value : Nat.ofDigitChars 10 digits 0 = n

theorem numeral_repr (n : Nat) : Numeral n (toString n).toList := by
  have hrepr : (toString n).toList = Nat.toDigits 10 n := Nat.toList_repr
  rw [hrepr]
  exact ⟨Json.all_toDigits n, Nat.toDigits_ne_nil, Nat.ofDigitChars_ten_toDigits⟩

theorem Numeral.zeros {n : Nat} {digits : List Char} (h : Numeral n digits) (count : Nat) :
    Numeral n (List.replicate count '0' ++ digits) where
  isDigit c hc := by
    rcases List.mem_append.mp hc with hc | hc
    · rw [List.eq_of_mem_replicate hc]
      rfl
    · exact h.isDigit c hc
  ne_nil := List.append_ne_nil_of_right_ne_nil _ h.ne_nil
  value := by
    rw [Nat.ofDigitChars_append, Nat.ofDigitChars_replicate_zero, Nat.mul_zero]
    exact h.value

theorem numeral_twoDigits (n : Nat) : Numeral n (twoDigits n).toList := by
  unfold twoDigits
  split
  · rw [String.toList_append]
    exact (numeral_repr n).zeros 1
  · exact numeral_repr n

theorem length_twoDigits {n : Nat} (hn : n < 100) : (twoDigits n).toList.length = 2 := by
  have hpos := Nat.length_repr_pos (n := n)
  have hone := Nat.length_repr_le_iff (n := n) (show 0 < 1 by omega)
  have htwo := Nat.length_repr_le_iff (n := n) (show 0 < 2 by omega)
  have hrepr : (toString (n : Int)).length = n.repr.length := rfl
  unfold twoDigits
  rw [String.length_toList]
  split
  · rw [String.length_append, hrepr]
    change 1 + n.repr.length = 2
    omega
  · rw [hrepr]
    omega

theorem numeral_fourDigits (n : Nat) : Numeral n (fourDigits n).toList := by
  unfold fourDigits
  rw [String.toList_append, String.toList_ofList]
  exact (numeral_repr n).zeros _

theorem length_fourDigits {n : Nat} (hn : n ≤ 9999) : (fourDigits n).toList.length = 4 := by
  have hfour := Nat.length_repr_le_iff (n := n) (show 0 < 4 by omega)
  have hrepr : (toString n).length = n.repr.length := rfl
  unfold fourDigits
  rw [String.length_toList, String.length_append, String.length_ofList, List.length_replicate, hrepr]
  omega

theorem digitsAfter_eq {digits : List Char} (h : ∀ c ∈ digits, c.isDigit = true) (n : Nat) :
    Text.digitsAfter n digits = some (Nat.ofDigitChars 10 digits n) := by
  induction digits generalizing n with
  | nil => simp [Text.digitsAfter]
  | cons c digits ih =>
    have hc := h c List.mem_cons_self
    rw [Text.digitsAfter, Text.digit?, if_pos hc, Option.bind_some, Nat.ofDigitChars_cons]
    exact ih (fun d hd => h d (List.mem_cons_of_mem _ hd)) _

theorem isBlank_of_isDigit {c : Char} (h : c.isDigit = true) : Text.isBlank c = false := by
  obtain ⟨hlow, hhigh⟩ := Char.isDigit_iff_toNat.mp h
  have hzero : '0'.toNat = 48 := rfl
  have hnine : '9'.toNat = 57 := rfl
  simp [Text.isBlank]
  omega

/-- **Numbers.** The digits of a number are read, if no more digits follow or there is no place for
more. -/
theorem number?_append {n : Nat} {digits : List Char} (h : Numeral n digits) (most : Nat)
    (rest : List Char) (hmost : digits.length ≤ most)
    (hrest : digits.length = most ∨ rest.takeWhile Char.isDigit = []) :
    number? most (digits ++ rest) = some (n, rest) := by
  have hblank : skipBlanks (digits ++ rest) = digits ++ rest := by
    obtain ⟨c, digits, rfl⟩ := List.exists_cons_of_ne_nil h.ne_nil
    have hc := isBlank_of_isDigit (h.isDigit c List.mem_cons_self)
    simp [skipBlanks, hc]
  have htake : ((digits ++ rest).takeWhile Char.isDigit).take most = digits := by
    rw [List.takeWhile_append_of_pos h.isDigit]
    rcases hrest with hlen | hrest
    · exact List.take_left' hlen
    · rw [hrest, List.append_nil]
      exact List.take_of_length_le hmost
  have hempty : digits.isEmpty = false := by simpa using h.ne_nil
  unfold number?
  simp only [hblank, htake, hempty, Bool.false_eq_true, if_false, digitsAfter_eq h.isDigit, h.value,
    Option.map_some, List.drop_left]

/-! ## Parts of an instant -/

theorem number?_twoDigits {n : Nat} (hn : n < 100) (rest : List Char) :
    number? 2 ((twoDigits n).toList ++ rest) = some (n, rest) :=
  have hlen := length_twoDigits hn
  number?_append (numeral_twoDigits n) 2 rest (Nat.le_of_eq hlen) (.inl hlen)

theorem skipBlanks_of_isDigit {c : Char} (hc : c.isDigit = true) (s : List Char) :
    skipBlanks (c :: s) = c :: s := by
  simp [skipBlanks, isBlank_of_isDigit hc]

theorem year?_of_isDigit {c : Char} (hc : c.isDigit = true) (s : List Char) :
    year? (c :: s) = (number? 4 (c :: s)).map fun r => ((r.1 : Int), r.2) := by
  unfold year?
  rw [skipBlanks_of_isDigit hc]
  split
  · rename_i h
    cases h
    cases hc
  · rename_i h
    cases h
    cases hc
  · rfl

/-- **Years.** A year is read back, up to the separator after it. -/
theorem year?_yearText (year : Int) (rest : List Char) :
    year? ((yearText year).toList ++ '-' :: rest) = some (year, '-' :: rest) := by
  unfold yearText
  split
  · rename_i hrange
    have hnumeral := numeral_fourDigits year.toNat
    have hlen := length_fourDigits (n := year.toNat) (by omega)
    have hnumber := number?_append hnumeral 4 ('-' :: rest) (Nat.le_of_eq hlen) (.inl hlen)
    obtain ⟨c, digits, hcs⟩ := List.exists_cons_of_ne_nil hnumeral.ne_nil
    have hc := hnumeral.isDigit c (hcs ▸ List.mem_cons_self)
    rw [hcs, List.cons_append] at hnumber ⊢
    rw [year?_of_isDigit hc, hnumber, Option.map_some, Int.toNat_of_nonneg hrange.1]
  · have hnumeral := numeral_fourDigits year.natAbs
    obtain ⟨c, digits, hcs⟩ := List.exists_cons_of_ne_nil hnumeral.ne_nil
    have hc := hnumeral.isDigit c (hcs ▸ List.mem_cons_self)
    -- After a sign there is a place for every character that is left.
    have hnumber := number?_append hnumeral ((digits ++ '-' :: rest).length + 1) ('-' :: rest)
      (by simp [hcs]) (.inr rfl)
    rw [hcs, List.cons_append] at hnumber
    rw [String.toList_append, List.append_assoc, hcs]
    split
    · have hread : year? ('-' :: c :: (digits ++ '-' :: rest)) =
          some (-(year.natAbs : Int), '-' :: rest) := by
        rw [year?, show skipBlanks ('-' :: c :: (digits ++ '-' :: rest)) =
          '-' :: c :: (digits ++ '-' :: rest) from rfl]
        simp only [hc, if_true, hnumber, Option.map_some]
      rw [show -(year.natAbs : Int) = year by omega] at hread
      exact hread
    · have hread : year? ('+' :: c :: (digits ++ '-' :: rest)) =
          some ((year.natAbs : Int), '-' :: rest) := by
        rw [year?, show skipBlanks ('+' :: c :: (digits ++ '-' :: rest)) =
          '+' :: c :: (digits ++ '-' :: rest) from rfl]
        simp only [hc, if_true, hnumber, Option.map_some]
      rw [show (year.natAbs : Int) = year by omega] at hread
      exact hread

/-! ## Whole instants -/

section

variable {year : Int} {month day hour minute second : Nat}

/-- The text of a date and of a time of day. -/
def chars (year : Int) (month day hour minute second : Nat) : List Char :=
  (yearText year).toList ++ '-' :: ((twoDigits month).toList ++ '-' :: ((twoDigits day).toList ++
    'T' :: ((twoDigits hour).toList ++ ':' :: ((twoDigits minute).toList ++
      ':' :: ((twoDigits second).toList ++ ['Z'])))))

theorem bind_of_eq_some {α β : Type} {a? : Option α} {a : α} (h : a? = some a) (f : α → Option β) :
    (a? >>= f) = f a := by
  rw [h]
  rfl

theorem separator?_self {c : Char} (hc : Text.isBlank c = false) (s : List Char) :
    separator? c (c :: s) = some s := by
  simp [separator?, skipBlanks, hc]

/-- **Dates and times of day** that are there are read. -/
theorem parse?_chars {s : String} (hs : s.toList = chars year month day hour minute second)
    (hyear : year.natAbs ≤ 262142) (hmonth : 1 ≤ month ∧ month ≤ 12)
    (hday : 1 ≤ day ∧ day ≤ daysOfMonth year month) (hhour : hour ≤ 23) (hminute : minute ≤ 59)
    (hsecond : second ≤ 60) :
    parse? s = some ⟨daysOfDate year month day * 86400 +
      (hour * 3600 + minute * 60 + (if second == 60 then 59 else second : Nat)), second == 60⟩ := by
  have hmost : daysOfMonth year month ≤ 31 := by
    unfold daysOfMonth
    split
    · split <;> omega
    · split <;> omega
  have hdash : Text.isBlank '-' = false := rfl
  have hcolon : Text.isBlank ':' = false := rfl
  have hend : fraction? ['Z'] = some ['Z'] := rfl
  have hzone : offset? (skipBlanks ['Z']) = some (0, []) := rfl
  have hrange : (decide (year.natAbs > 262142) || decide (month < 1) || decide (12 < month) ||
      decide (day < 1) || decide (daysOfMonth year month < day) || decide (23 < hour) ||
        decide (59 < minute) || decide (60 < second)) = false := by
    simp
    omega
  unfold parse?
  rw [hs]
  -- One part after the other, with the separators between them.
  refine (bind_of_eq_some (year?_yearText year _) _).trans ?_
  refine (bind_of_eq_some (separator?_self hdash _) _).trans ?_
  refine (bind_of_eq_some (number?_twoDigits (show month < 100 by omega) _) _).trans ?_
  refine (bind_of_eq_some (separator?_self hdash _) _).trans ?_
  refine (bind_of_eq_some (number?_twoDigits (show day < 100 by omega) _) _).trans ?_
  refine (bind_of_eq_some rfl _).trans ?_
  refine (bind_of_eq_some (number?_twoDigits (show hour < 100 by omega) _) _).trans ?_
  refine (bind_of_eq_some (separator?_self hcolon _) _).trans ?_
  refine (bind_of_eq_some (number?_twoDigits (show minute < 100 by omega) _) _).trans ?_
  refine (bind_of_eq_some (separator?_self hcolon _) _).trans ?_
  refine (bind_of_eq_some (number?_twoDigits (show second < 100 by omega) _) _).trans ?_
  refine (bind_of_eq_some hend _).trans ?_
  refine (bind_of_eq_some hzone _).trans ?_
  simp only [hrange, Int.sub_zero]
  rfl

/-- A leap second follows the last second of a minute, and is read as that second. -/
theorem second_read (clock : Nat) (leap : Bool) (h : leap = true → clock % 60 = 59) :
    clock % 60 + leap.toNat ≤ 60 ∧ (clock % 60 + leap.toNat == 60) = leap ∧
      (if leap then 59 else clock % 60 + leap.toNat) = clock % 60 := by
  have hlt := Nat.mod_lt clock (show 0 < 60 by omega)
  cases leap with
  | false =>
    have hne : clock % 60 ≠ 60 := by omega
    simp [hne]
    omega
  | true =>
    have hlast := h rfl
    simp [hlast]

theorem toList_text {t : Instant} {clock : Nat}
    (hdate : dateOfDays (t.seconds.fdiv 86400) = (year, (month : Int), (day : Int)))
    (hclock : t.seconds - t.seconds.fdiv 86400 * 86400 = clock) :
    t.text.toList =
      chars year month day (clock / 3600) (clock / 60 % 60) (clock % 60 + t.leap.toNat) := by
  have hleap : (if t.leap = true then 1 else 0 : Int) = (t.leap.toNat : Int) := by
    cases t.leap <;> rfl
  unfold Instant.text chars
  simp only [hdate, hclock, hleap]
  simp

end

/-- **Texts of instants.** An instant is read back from its text. -/
theorem parse?_text {t : Instant} (h : t.Representable) : parse? t.text = some t := by
  obtain ⟨hyear, hleap⟩ := h
  have hfdiv : t.seconds.fdiv 86400 = t.seconds / 86400 := Int.fdiv_eq_ediv_of_nonneg _ (by omega)
  obtain ⟨year, month, day, hdate⟩ : ∃ year month day,
      dateOfDays (t.seconds.fdiv 86400) = (year, month, day) := ⟨_, _, _, rfl⟩
  obtain ⟨clock, hclock⟩ : ∃ clock : Nat, t.seconds - t.seconds.fdiv 86400 * 86400 = clock :=
    ⟨(t.seconds - t.seconds.fdiv 86400 * 86400).toNat, by omega⟩
  obtain ⟨hmonth, hpos, hday⟩ := dateOfDays_valid _ hdate
  have hdays := daysOfDate_dateOfDays _ hdate
  rw [hdate] at hyear
  obtain ⟨month, rfl⟩ := Int.eq_ofNat_of_zero_le (show 0 ≤ month by omega)
  obtain ⟨day, rfl⟩ := Int.eq_ofNat_of_zero_le (show 0 ≤ day by omega)
  rw [Int.toNat_natCast] at hday hdays
  rw [Int.toNat_natCast] at hdays
  have hlt : clock < 86400 := by omega
  have hminute : t.leap = true → clock % 60 = 59 := by
    intro hl
    have h59 := hleap hl
    omega
  obtain ⟨hle, hlast, hsecond⟩ := second_read clock t.leap hminute
  rw [parse?_chars (toList_text hdate hclock) hyear (by omega) (by omega) (by omega) (by omega) hle,
    hlast, hdays, hsecond]
  have hseconds : t.seconds.fdiv 86400 * 86400 + (((clock / 3600 : Nat) : Int) * 3600 +
      ((clock / 60 % 60 : Nat) : Int) * 60 + ((clock % 60 : Nat) : Int)) = t.seconds := by omega
  rw [hseconds]

end SwitchFleet.Instant
