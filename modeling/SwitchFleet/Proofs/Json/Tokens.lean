import SwitchFleet.Json.Token
import SwitchFleet.Json.Writer

/-!
# The tokens of a written value

* `Json.Printable`: the values without binary64 numbers and without integers of more than 64 bits.
* `Json.tokensOf`: the tokens of a value.
* `scanString_chars`, `scanNumber_chars`: a string and an integer are scanned as they were written.
* **`tokens_chars`**: a written value is a text of its tokens.
-/

namespace SwitchFleet.Json

/-! ## Strings -/

/-- Whether four characters are the hexadecimal digits of a unit. -/
def isUnit (n : Nat) : List Char → Bool
  | [a, b, c, d] => unit? a b c d == some n
  | _ => false

theorem isUnit_hex :
    ∀ n < 0x20, isUnit n (List.replicate (4 - (Text.hex n).length) '0' ++ Text.hex n) = true := by
  decide

theorem scanParts_char {c : Char} {rest : List Char} {r : List StringPart × List Char}
    (hc : ¬ c.toNat < 0x20) (hq : c ≠ '"') (hb : c ≠ '\\') (hr : scanParts? rest = some r) :
    scanParts? (c :: rest) = some (.char c :: r.1, r.2) := by
  rw [scanParts?.eq_def]
  split
  · contradiction
  · rename_i h
    exact absurd (List.cons.inj h).1 hq
  · rename_i h
    exact absurd (List.cons.inj h).1 hb
  · rename_i h
    exact absurd (List.cons.inj h).1 hb
  · rename_i h
    obtain ⟨rfl, rfl⟩ := List.cons.inj h
    rw [if_neg hc, hr]
    rfl

theorem scanParts_unit {n : Nat} {ds rest : List Char} {r : List StringPart × List Char}
    (hn : isUnit n ds = true) (hr : scanParts? rest = some r) :
    scanParts? ('\\' :: 'u' :: ds ++ rest) = some (.unit n :: r.1, r.2) := by
  match ds, hn with
  | [a, b, c, d], hn =>
    change scanParts? ('\\' :: 'u' :: a :: b :: c :: d :: rest) = _
    rw [scanParts?, eq_of_beq hn, hr]
    rfl

theorem scanParts_escaped {e c : Char} {rest : List Char} {r : List StringPart × List Char}
    (he : unescape? e = some c) (hr : scanParts? rest = some r) :
    scanParts? ('\\' :: e :: rest) = some (.char c :: r.1, r.2) := by
  rw [scanParts?.eq_def]
  split
  · contradiction
  · rename_i h
    exact absurd (List.cons.inj h).1 (by decide)
  · rename_i h
    obtain ⟨rfl, -⟩ := List.cons.inj (List.cons.inj h).2
    cases he
  · rename_i h
    obtain ⟨rfl, rfl⟩ := List.cons.inj (List.cons.inj h).2
    rw [he, hr]
    rfl
  · rename_i hno h
    obtain ⟨rfl, rfl⟩ := List.cons.inj h
    exact (hno _ _ rfl rfl).elim

theorem joinParts_char (c : Char) (ps : List StringPart) :
    joinParts? (.char c :: ps) = (joinParts? ps).map (c :: ·) := rfl

theorem joinParts_unit {c : Char} (hc : c.toNat < 0xD800) (ps : List StringPart) :
    joinParts? (.unit c.toNat :: ps) = (joinParts? ps).map (c :: ·) := by
  rw [joinParts?.eq_def]
  simp [hc]

/-- An escaped character is scanned as a part that stands for it. -/
theorem scanParts_escape (c : Char) {rest : List Char} {r : List StringPart × List Char}
    (hr : scanParts? rest = some r) :
    ∃ p, scanParts? (escape c ++ rest) = some (p :: r.1, r.2) ∧
      ∀ ps, joinParts? (p :: ps) = (joinParts? ps).map (c :: ·) := by
  unfold escape
  split
  case h_8 hq hb _ _ _ _ _ =>
    dsimp only
    split
    · rename_i hc
      exact ⟨.unit c.toNat, scanParts_unit (isUnit_hex _ hc) hr, joinParts_unit (by omega)⟩
    · rename_i hc
      exact ⟨.char c, scanParts_char hc (by simpa using hq) (by simpa using hb) hr, joinParts_char c⟩
  all_goals
    exact ⟨_, scanParts_escaped rfl hr, joinParts_char _⟩

theorem scanParts_chars (cs rest : List Char) :
    ∃ ps, scanParts? (cs.flatMap escape ++ '"' :: rest) = some (ps, rest) ∧
      joinParts? ps = some cs := by
  induction cs with
  | nil => exact ⟨[], rfl, rfl⟩
  | cons c cs ih =>
    obtain ⟨ps, hs, hj⟩ := ih
    obtain ⟨p, hp, hc⟩ := scanParts_escape c hs
    refine ⟨p :: ps, ?_, ?_⟩
    · rw [List.flatMap_cons, List.append_assoc]
      exact hp
    · rw [hc, hj]
      rfl

/-- **Strings.** A written string is scanned as it was, up to its closing quote. -/
theorem scanString_chars (s : String) (rest : List Char) :
    scanString? (s.toList.flatMap escape ++ '"' :: rest) = some (some s, rest) := by
  obtain ⟨ps, hs, hj⟩ := scanParts_chars s.toList rest
  rw [scanString?, hs]
  simp [hj]

/-! ## Integers -/

/-- The characters that may follow a number do not go on with it. -/
def Ends (rest : List Char) : Prop :=
  ∀ c ∈ rest.head?, c.isDigit = false ∧ c ≠ '.' ∧ c ≠ 'e' ∧ c ≠ 'E'

theorem ends_nil : Ends [] := fun _ hc => nomatch hc

theorem ends_cons {c : Char} (hc : c = ',' ∨ c = ']' ∨ c = '\x7d') (rest : List Char) :
    Ends (c :: rest) := by
  intro d hd
  cases Option.some.inj hd
  rcases hc with rfl | rfl | rfl <;> decide

theorem head_toDigits {n : Nat} (hn : 0 < n) : (Nat.toDigits 10 n).head? ≠ some '0' := by
  induction n using Nat.strongRecOn with
  | _ n ih =>
    by_cases hlt : n < 10
    · rw [Nat.toDigits_of_lt_base hlt]
      have : ∀ n < 10, 0 < n → [n.digitChar].head? ≠ some '0' := by decide
      exact this n hlt hn
    · have hfirst := ih (n / 10) (by omega) (by omega)
      obtain ⟨c, cs, hcs⟩ := List.exists_cons_of_ne_nil (Nat.toDigits_ne_nil (n := n / 10) (b := 10))
      rw [Nat.toDigits_of_base_le (by omega) (by omega), hcs]
      rwa [hcs] at hfirst

theorem all_toDigits (n : Nat) : ∀ c ∈ Nat.toDigits 10 n, c.isDigit = true :=
  fun _ hc => Nat.isDigit_of_mem_toDigits (by omega) (by omega) hc

theorem scanDigits_append {ds rest : List Char} (hne : ds ≠ []) (hds : ∀ c ∈ ds, c.isDigit = true)
    (hr : Ends rest) : scanDigits? (ds ++ rest) = some (ds, rest) := by
  have hstop : rest.takeWhile Char.isDigit = [] ∧ rest.dropWhile Char.isDigit = rest := by
    cases rest with
    | nil => exact ⟨rfl, rfl⟩
    | cons c rest =>
      have hc := (hr c rfl).1
      exact ⟨List.takeWhile_cons_of_neg (by simp [hc]), List.dropWhile_cons_of_neg (by simp [hc])⟩
  unfold scanDigits?
  rw [List.takeWhile_append_of_pos hds, List.dropWhile_append_of_pos hds, hstop.1, hstop.2,
    List.append_nil, if_neg (by simpa using hne)]

theorem scanWhole_toDigits (n : Nat) {rest : List Char} (hr : Ends rest) :
    scanWhole? (Nat.toDigits 10 n ++ rest) = some (Nat.toDigits 10 n, rest) := by
  have hd := scanDigits_append Nat.toDigits_ne_nil (all_toDigits n) hr
  unfold scanWhole?
  rw [hd]
  split
  · rename_i d ds rest' h
    have hds := (Prod.mk.inj (Option.some.inj h)).1
    rcases Nat.eq_zero_or_pos n with rfl | hn
    · rw [Nat.toDigits_zero] at hds
      cases hds
    · exact absurd (by rw [hds]; rfl) (head_toDigits hn)
  · rfl

theorem le_ofDigitChars (ds : List Char) (n : Nat) : n ≤ Nat.ofDigitChars 10 ds n := by
  induction ds generalizing n with
  | nil => simp
  | cons c cs ih =>
    rw [Nat.ofDigitChars_cons]
    exact Nat.le_trans (by omega) (ih _)

theorem significand_eq {ds : List Char} {n : Nat} (hn : Nat.ofDigitChars 10 ds n < UInt64.size) :
    significand n ds = (Nat.ofDigitChars 10 ds n, []) := by
  induction ds generalizing n with
  | nil => simp [significand]
  | cons c cs ih =>
    rw [Nat.ofDigitChars_cons] at hn ⊢
    have hm := Nat.lt_of_le_of_lt (le_ofDigitChars cs _) hn
    rw [significand, if_pos hm]
    exact ih hn

theorem integer_toDigits {n : Nat} (hn : n < UInt64.size) :
    integer? false (Nat.toDigits 10 n) = some (.int n) := by
  have hs := @significand_eq (Nat.toDigits 10 n) 0
    (by rwa [Nat.ofDigitChars_ten_toDigits])
  rw [Nat.ofDigitChars_ten_toDigits] at hs
  rw [integer?, hs]
  rfl

theorem integer_toDigits_neg {n : Nat} (hpos : 0 < n) (hn : 2 * n ≤ UInt64.size) :
    integer? true (Nat.toDigits 10 n) = some (.int (-n)) := by
  have hlt : n < UInt64.size := by omega
  have hs := @significand_eq (Nat.toDigits 10 n) 0
    (by rwa [Nat.ofDigitChars_ten_toDigits])
  rw [Nat.ofDigitChars_ten_toDigits] at hs
  rw [integer?, hs]
  simp [hpos, hn]

theorem scanFraction_ends {rest : List Char} (hr : Ends rest) :
    scanFraction? rest = some ([], rest) := by
  unfold scanFraction?
  split
  · exact absurd rfl (hr '.' rfl).2.1
  · rfl

theorem scanExponent_ends {rest : List Char} (hr : Ends rest) :
    scanExponent? rest = some (none, rest) := by
  unfold scanExponent?
  dsimp only
  split
  · exact absurd rfl (hr 'e' rfl).2.2.1
  · exact absurd rfl (hr 'E' rfl).2.2.2
  · rfl

theorem scanNumber_unsigned {s whole rest : List Char} (hs : s.head? ≠ some '-')
    (hw : scanWhole? s = some (whole, rest)) (hr : Ends rest) :
    scanNumber? s = some (integer? false whole, rest) := by
  unfold scanNumber?
  split
  rename_i negative t heq
  split at heq
  · exact absurd rfl hs
  · obtain ⟨rfl, rfl⟩ := Prod.mk.inj heq
    simp [hw, scanFraction_ends hr, scanExponent_ends hr]

theorem scanNumber_signed {s whole rest : List Char} (hw : scanWhole? s = some (whole, rest))
    (hr : Ends rest) : scanNumber? ('-' :: s) = some (integer? true whole, rest) := by
  unfold scanNumber?
  simp [hw, scanFraction_ends hr, scanExponent_ends hr]

/-- **Integers.** A written integer of at most 64 bits is scanned as it was. -/
theorem scanNumber_chars {n : Int} (hlow : -(UInt64.size : Int) ≤ 2 * n) (hhigh : n < UInt64.size)
    {rest : List Char} (hr : Ends rest) :
    scanNumber? (numberChars (.int n) ++ rest) = some (some (.int n), rest) := by
  cases n with
  | ofNat n =>
    have hchars : numberChars (.int (.ofNat n)) = Nat.toDigits 10 n := Nat.toList_repr
    have hhead : (Nat.toDigits 10 n ++ rest).head? ≠ some '-' := by
      obtain ⟨c, cs, hcs⟩ := List.exists_cons_of_ne_nil (Nat.toDigits_ne_nil (n := n) (b := 10))
      have hc := all_toDigits n c (hcs ▸ List.mem_cons_self)
      rw [hcs]
      rintro h
      cases Option.some.inj h
      exact absurd hc (by decide)
    rw [hchars, scanNumber_unsigned hhead (scanWhole_toDigits n hr) hr,
      integer_toDigits (Int.ofNat_lt.mp hhigh)]
    rfl
  | negSucc n =>
    have hchars : numberChars (.int (.negSucc n)) = '-' :: Nat.toDigits 10 (n + 1) := by
      change ("-" ++ (n + 1).repr).toList = _
      rw [String.toList_append, Nat.toList_repr]
      rfl
    rw [hchars, List.cons_append, scanNumber_signed (scanWhole_toDigits (n + 1) hr) hr,
      integer_toDigits_neg (by omega) (by omega)]
    rfl

/-! ## Single tokens -/

theorem tokens_mark {c : Char} {t : Token} (cs : List Char)
    (hc : (c, t) ∈ [('[', .openArray), (']', .closeArray), ('\x7b', .openObject),
      ('\x7d', .closeObject), (',', .comma), (':', .colon)]) :
    tokens (c :: cs) = t :: tokens cs := by
  simp only [List.mem_cons, Prod.mk.injEq, List.not_mem_nil, or_false] at hc
  rcases hc with ⟨rfl, rfl⟩ | ⟨rfl, rfl⟩ | ⟨rfl, rfl⟩ | ⟨rfl, rfl⟩ | ⟨rfl, rfl⟩ | ⟨rfl, rfl⟩ <;>
    · rw [tokens]
      rfl

theorem tokens_string (s : String) (rest : List Char) :
    tokens (stringChars s ++ rest) = .string (some s) :: tokens rest := by
  have hs := scanString_chars s rest
  have happ : stringChars s ++ rest = '"' :: (s.toList.flatMap escape ++ '"' :: rest) := by
    simp [stringChars]
  rw [happ, tokens, if_neg (by decide)]
  split
  · rename_i t r h
    rw [hs] at h
    obtain ⟨rfl, rfl⟩ := Prod.mk.inj (Option.some.inj h)
    rfl
  · rename_i h
    rw [hs] at h
    cases h

theorem tokens_number {c : Char} {cs rest : List Char} {n : Option Number}
    (hc : c.isDigit = true ∨ c = '-') (h : scanNumber? (c :: cs) = some (n, rest)) :
    tokens (c :: cs) = .number n :: tokens rest := by
  have hspace : isSpace c = false := by
    refine Bool.eq_false_iff.mpr fun hs => ?_
    simp only [isSpace, Bool.or_eq_true, beq_iff_eq] at hs
    rcases hs with ((rfl | rfl) | rfl) | rfl <;> revert hc <;> decide
  rw [tokens, hspace, if_neg Bool.false_ne_true]
  split
  case h_1 m r hm =>
    rw [h] at hm
    obtain ⟨rfl, rfl⟩ := Prod.mk.inj (Option.some.inj hm)
    rfl
  case h_2 hm =>
    rw [h] at hm
    cases hm
  all_goals
    rintro rfl
    exact absurd hc (by decide)

theorem tokens_int {n : Int} (hlow : -(UInt64.size : Int) ≤ 2 * n) (hhigh : n < UInt64.size)
    {rest : List Char} (hr : Ends rest) :
    tokens (numberChars (.int n) ++ rest) = .number (some (.int n)) :: tokens rest := by
  have hscan := scanNumber_chars hlow hhigh hr
  have hhead : ∃ c cs, numberChars (.int n) = c :: cs ∧ (c.isDigit = true ∨ c = '-') := by
    cases n with
    | ofNat n =>
      obtain ⟨c, cs, hcs⟩ := List.exists_cons_of_ne_nil (Nat.toDigits_ne_nil (n := n) (b := 10))
      exact ⟨c, cs, Nat.toList_repr.trans hcs, .inl (all_toDigits n c (hcs ▸ List.mem_cons_self))⟩
    | negSucc n => exact ⟨'-', (n + 1).repr.toList, String.toList_append, .inr rfl⟩
  obtain ⟨c, cs, hcs, hc⟩ := hhead
  rw [hcs] at hscan ⊢
  exact tokens_number hc hscan

theorem tokens_null (rest : List Char) : tokens ("null".toList ++ rest) = .null :: tokens rest := by
  change tokens ('n' :: 'u' :: 'l' :: 'l' :: rest) = _
  rw [tokens]
  rfl

theorem tokens_bool (b : Bool) (rest : List Char) :
    tokens ((toString b).toList ++ rest) = .bool b :: tokens rest := by
  cases b with
  | true =>
    change tokens ('t' :: 'r' :: 'u' :: 'e' :: rest) = _
    rw [tokens]
    rfl
  | false =>
    change tokens ('f' :: 'a' :: 'l' :: 's' :: 'e' :: rest) = _
    rw [tokens]
    rfl

/-! ## Values -/

mutual

/-- The values without binary64 numbers and without integers of more than 64 bits. -/
def Printable : Json → Prop
  | .number (.int n) => -(UInt64.size : Int) ≤ 2 * n ∧ n < UInt64.size
  | .number (.float _) => False
  | .array xs => PrintableItems xs
  | .object ms => PrintableMembers ms
  | _ => True

/-- The lists of such values. -/
def PrintableItems : List Json → Prop
  | [] => True
  | x :: xs => x.Printable ∧ PrintableItems xs

/-- The lists of members with such values. -/
def PrintableMembers : List (String × Json) → Prop
  | [] => True
  | (_, x) :: ms => x.Printable ∧ PrintableMembers ms

end

mutual

/-- The tokens of a value. -/
def tokensOf : Json → List Token
  | .null => [.null]
  | .bool b => [.bool b]
  | .number n => [.number (some n)]
  | .string s => [.string (some s)]
  | .array xs => .openArray :: (itemTokens xs ++ [.closeArray])
  | .object ms => .openObject :: (memberTokens ms ++ [.closeObject])

/-- The tokens of items, with commas between them. -/
def itemTokens : List Json → List Token
  | [] => []
  | [x] => x.tokensOf
  | x :: y :: xs => x.tokensOf ++ .comma :: itemTokens (y :: xs)

/-- The tokens of members, with commas between them. -/
def memberTokens : List (String × Json) → List Token
  | [] => []
  | [(k, x)] => .string (some k) :: .colon :: x.tokensOf
  | (k, x) :: m :: ms =>
    .string (some k) :: .colon :: (x.tokensOf ++ .comma :: memberTokens (m :: ms))

end

mutual

/-- **Written values.** A written value is a text of its tokens. -/
theorem tokens_chars (v : Json) (hv : v.Printable) {rest : List Char} (hr : Ends rest) :
    tokens (v.chars ++ rest) = v.tokensOf ++ tokens rest := by
  cases v with
  | null => exact tokens_null rest
  | bool b => exact tokens_bool b rest
  | number n =>
    cases n with
    | int n => exact tokens_int hv.1 hv.2 hr
    | float x => exact hv.elim
  | string s => exact tokens_string s rest
  | array xs =>
    have hclose : tokens (']' :: rest) = .closeArray :: tokens rest := tokens_mark rest (by decide)
    simp only [chars, tokensOf, List.cons_append, List.append_assoc, List.nil_append]
    rw [tokens_mark _ (t := .openArray) (by decide),
      tokens_itemChars xs hv (ends_cons (by decide) _), hclose]
  | object ms =>
    have hclose : tokens ('\x7d' :: rest) = .closeObject :: tokens rest :=
      tokens_mark rest (by decide)
    simp only [chars, tokensOf, List.cons_append, List.append_assoc, List.nil_append]
    rw [tokens_mark _ (t := .openObject) (by decide),
      tokens_memberChars ms hv (ends_cons (by decide) _), hclose]

theorem tokens_itemChars (xs : List Json) (hxs : PrintableItems xs) {rest : List Char}
    (hr : Ends rest) : tokens (itemChars xs ++ rest) = itemTokens xs ++ tokens rest := by
  match xs, hxs with
  | [], _ => rfl
  | [x], hx => exact tokens_chars x hx.1 hr
  | x :: y :: xs, hxs =>
    have hsplit : itemChars (x :: y :: xs) = x.chars ++ ',' :: itemChars (y :: xs) := rfl
    simp only [hsplit, itemTokens, List.cons_append, List.append_assoc]
    rw [tokens_chars x hxs.1 (ends_cons (by decide) _), tokens_mark _ (t := .comma) (by decide),
      tokens_itemChars (y :: xs) hxs.2 hr]

theorem tokens_memberChars (ms : List (String × Json)) (hms : PrintableMembers ms)
    {rest : List Char} (hr : Ends rest) :
    tokens (memberChars ms ++ rest) = memberTokens ms ++ tokens rest := by
  match ms, hms with
  | [], _ => rfl
  | [(k, x)], hx =>
    rw [memberChars, List.append_assoc, List.cons_append, tokens_string,
      tokens_mark _ (t := .colon) (by decide), tokens_chars x hx.1 hr]
    rfl
  | (k, x) :: m :: ms, hms =>
    have hsplit : memberChars ((k, x) :: m :: ms) =
        stringChars k ++ ':' :: x.chars ++ ',' :: memberChars (m :: ms) := rfl
    simp only [hsplit, memberTokens, List.cons_append, List.append_assoc]
    rw [tokens_string, tokens_mark _ (t := .colon) (by decide),
      tokens_chars x hms.1 (ends_cons (by decide) _), tokens_mark _ (t := .comma) (by decide),
      tokens_memberChars (m :: ms) hms.2 hr]

end

end SwitchFleet.Json
