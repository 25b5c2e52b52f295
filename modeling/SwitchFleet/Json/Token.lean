import SwitchFleet.Binary64
import SwitchFleet.Json.Basic
import SwitchFleet.Text.Decimal

/-!
# Tokens of a JSON text

A JSON text is a list of tokens, with blanks between them. The list ends with `Token.unknown` where
no token starts.

* `scanString?`, `scanNumber?`: one token, and the text after it.
* `tokens`: the tokens of a text.
* `length_scanString?`, `length_scanNumber?`: the text after a token is shorter.
-/

namespace SwitchFleet.Json

/-- A token of a JSON text. -/
inductive Token where
  | openArray
  | closeArray
  | openObject
  | closeObject
  | comma
  | colon
  | null
  | bool (b : Bool)
  /-- A number, or nothing if it is out of range. -/
  | number (n : Option Number)
  /-- A string, or nothing if it holds an unpaired surrogate. -/
  | string (s : Option String)
  /-- A place where no token starts. -/
  | unknown
deriving DecidableEq

/-! ## Strings -/

/-- A part of a string: a character, or an escaped UTF-16 unit. -/
inductive StringPart where
  | char (c : Char)
  | unit (n : Nat)

/-- The value of a hexadecimal digit. -/
def hexDigit? (c : Char) : Option Nat :=
  if c.isDigit then some (c.toNat - '0'.toNat)
  else if 'a' ≤ c ∧ c ≤ 'f' then some (c.toNat - 'a'.toNat + 10)
  else if 'A' ≤ c ∧ c ≤ 'F' then some (c.toNat - 'A'.toNat + 10)
  else none

/-- The value of four hexadecimal digits. -/
def unit? (a b c d : Char) : Option Nat := do
  return (((← hexDigit? a) * 16 + (← hexDigit? b)) * 16 + (← hexDigit? c)) * 16 + (← hexDigit? d)

/-- The character that an escape of one letter stands for. -/
def unescape? : Char → Option Char
  | '"' => some '"'
  | '\\' => some '\\'
  | '/' => some '/'
  | 'b' => some '\x08'
  | 'f' => some '\x0c'
  | 'n' => some '\n'
  | 'r' => some '\r'
  | 't' => some '\t'
  | _ => none

/-- The parts of a string up to its closing quote, and the text after it. Controls must be
escaped. -/
def scanParts? : List Char → Option (List StringPart × List Char)
  | [] => none
  | '"' :: rest => some ([], rest)
  | '\\' :: 'u' :: a :: b :: c :: d :: rest => do
    let n ← unit? a b c d
    let (parts, rest) ← scanParts? rest
    return (.unit n :: parts, rest)
  | '\\' :: e :: rest => do
    let c ← unescape? e
    let (parts, rest) ← scanParts? rest
    return (.char c :: parts, rest)
  | c :: rest =>
    if c.toNat < 0x20 then none
    else do
      let (parts, rest) ← scanParts? rest
      return (.char c :: parts, rest)

/-- The characters of the parts of a string, if all surrogates are paired. -/
def joinParts? : List StringPart → Option (List Char)
  | [] => some []
  | .char c :: ps => (joinParts? ps).map (c :: ·)
  | .unit n :: ps =>
    if n < 0xD800 || 0xDFFF < n then (joinParts? ps).map (Char.ofNat n :: ·)
    else match ps with
      | .unit m :: ps =>
        if n < 0xDC00 && 0xDC00 ≤ m && m ≤ 0xDFFF then
          (joinParts? ps).map (Char.ofNat (0x10000 + (n - 0xD800) * 0x400 + (m - 0xDC00)) :: ·)
        else none
      | _ => none

/-- A string after its opening quote, and the text after it. -/
def scanString? (s : List Char) : Option (Option String × List Char) :=
  (scanParts? s).map fun r => ((joinParts? r.1).map String.ofList, r.2)

theorem length_scanParts? {s rest : List Char} {parts : List StringPart}
    (h : scanParts? s = some (parts, rest)) : rest.length < s.length := by
  fun_induction scanParts? s generalizing parts rest with
  | case1 => simp at h
  | case2 r =>
    obtain ⟨-, rfl⟩ := Prod.mk.inj (Option.some.inj h)
    simp
  | case3 a b c d r ih =>
    simp only [bind, Option.bind_eq_some_iff] at h
    obtain ⟨n, -, ⟨ps, r'⟩, hr, h⟩ := h
    obtain ⟨-, rfl⟩ := Prod.mk.inj (Option.some.inj h)
    have := ih hr
    simp only [List.length_cons]
    omega
  | case4 e r _ ih =>
    simp only [bind, Option.bind_eq_some_iff] at h
    obtain ⟨n, -, ⟨ps, r'⟩, hr, h⟩ := h
    obtain ⟨-, rfl⟩ := Prod.mk.inj (Option.some.inj h)
    have := ih hr
    simp only [List.length_cons]
    omega
  | case5 c r => simp at h
  | case6 c r _ _ _ _ ih =>
    simp only [bind, Option.bind_eq_some_iff] at h
    obtain ⟨⟨ps, r'⟩, hr, h⟩ := h
    obtain ⟨-, rfl⟩ := Prod.mk.inj (Option.some.inj h)
    have := ih hr
    simp only [List.length_cons]
    omega

theorem length_scanString? {s rest : List Char} {v : Option String}
    (h : scanString? s = some (v, rest)) : rest.length < s.length := by
  obtain ⟨⟨parts, r⟩, hp, h⟩ := Option.map_eq_some_iff.1 h
  obtain ⟨-, rfl⟩ := Prod.mk.inj h
  exact length_scanParts? hp

/-! ## Numbers -/

/-- Digits read into a number that fits into 64 bits, and the digits that no longer fit. -/
def significand (n : Nat) : List Char → Nat × List Char
  | [] => (n, [])
  | c :: cs =>
    let m := 10 * n + (c.toNat - '0'.toNat)
    if m < UInt64.size then significand m cs else (n, c :: cs)

/-- The number with a sign, digits before and after the point, and an exponent. Digits that do not
fit into 64 bits count only by their place. -/
def decimal? (negative : Bool) (whole fraction : List Char) (exponent : Int) : Option Number :=
  let (n, rest) := significand 0 whole
  let (m, cut) := significand n fraction
  let places : Int := rest.length - (fraction.length - cut.length : Nat)
  (Binary64.ofDecimal? negative m (places + exponent)).map .float

/-- The number with a sign and digits only. It is an integer if it fits into 64 bits, and a negative
zero is not an integer. -/
def integer? (negative : Bool) (whole : List Char) : Option Number :=
  match significand 0 whole with
  | (n, []) =>
    if !negative then some (.int n)
    else if 0 < n && 2 * n ≤ UInt64.size then some (.int (-n))
    else (Binary64.ofDecimal? true n 0).map .float
  | _ => decimal? negative whole [] 0

/-- A run of digits, and the text after it. -/
def scanDigits? (s : List Char) : Option (List Char × List Char) :=
  if (s.takeWhile Char.isDigit).isEmpty then none
  else some (s.takeWhile Char.isDigit, s.dropWhile Char.isDigit)

/-- The digits before the point. A leading zero stands alone. -/
def scanWhole? (s : List Char) : Option (List Char × List Char) :=
  match scanDigits? s with
  | some ('0' :: _ :: _, _) => none
  | r => r

/-- The digits after the point, if there is a point. -/
def scanFraction? (s : List Char) : Option (List Char × List Char) :=
  match s with
  | '.' :: s => scanDigits? s
  | s => some ([], s)

/-- The exponent, if there is one. -/
def scanExponent? (s : List Char) : Option (Option Int × List Char) :=
  let signed (s : List Char) : Option (Int × List Char) :=
    match s with
    | '-' :: s => (scanDigits? s).map fun r => (-((Text.digitsAfter 0 r.1).getD 0 : Int), r.2)
    | '+' :: s => (scanDigits? s).map fun r => ((Text.digitsAfter 0 r.1).getD 0, r.2)
    | s => (scanDigits? s).map fun r => ((Text.digitsAfter 0 r.1).getD 0, r.2)
  match s with
  | 'e' :: s => (signed s).map fun r => (some r.1, r.2)
  | 'E' :: s => (signed s).map fun r => (some r.1, r.2)
  | s => some (none, s)

/-- A number, and the text after it. -/
def scanNumber? (s : List Char) : Option (Option Number × List Char) := do
  let (negative, s) := match s with
    | '-' :: s => (true, s)
    | s => (false, s)
  let (whole, s) ← scanWhole? s
  let (fraction, s) ← scanFraction? s
  let (exponent, s) ← scanExponent? s
  if fraction.isEmpty && exponent.isNone then return (integer? negative whole, s)
  else return (decimal? negative whole fraction (exponent.getD 0), s)

theorem length_scanDigits? {s ds rest : List Char} (h : scanDigits? s = some (ds, rest)) :
    rest.length < s.length := by
  unfold scanDigits? at h
  split at h
  · simp at h
  · rename_i hne
    obtain ⟨rfl, rfl⟩ := Prod.mk.inj (Option.some.inj h)
    have hl := congrArg List.length (List.takeWhile_append_dropWhile (p := Char.isDigit) (l := s))
    have : (s.takeWhile Char.isDigit).length ≠ 0 := by
      simpa using hne
    rw [List.length_append] at hl
    omega

theorem length_scanWhole? {s ds rest : List Char} (h : scanWhole? s = some (ds, rest)) :
    rest.length < s.length := by
  unfold scanWhole? at h
  split at h
  · simp at h
  · exact length_scanDigits? h

theorem length_scanFraction? {s ds rest : List Char} (h : scanFraction? s = some (ds, rest)) :
    rest.length ≤ s.length := by
  unfold scanFraction? at h
  split at h
  · have := length_scanDigits? h
    simp only [List.length_cons]
    omega
  · obtain ⟨-, rfl⟩ := Prod.mk.inj (Option.some.inj h)
    exact Nat.le_refl _

theorem length_scanExponent? {s rest : List Char} {e : Option Int}
    (h : scanExponent? s = some (e, rest)) : rest.length ≤ s.length := by
  unfold scanExponent? at h
  simp only at h
  repeat' split at h
  all_goals
    first
    | (obtain ⟨-, rfl⟩ := Prod.mk.inj (Option.some.inj h); exact Nat.le_refl _)
    | (simp only [Option.map_map, Option.map_eq_some_iff] at h
       obtain ⟨⟨ds, r⟩, hd, h⟩ := h
       obtain ⟨-, rfl⟩ := Prod.mk.inj h
       have := length_scanDigits? hd
       simp only [List.length_cons] at *
       omega)

theorem length_scanNumber? {s rest : List Char} {n : Option Number}
    (h : scanNumber? s = some (n, rest)) : rest.length < s.length := by
  unfold scanNumber? at h
  have key : ∀ t : List Char, t.length ≤ s.length → ∀ negative : Bool,
      (do
        let (whole, s) ← scanWhole? t
        let (fraction, s) ← scanFraction? s
        let (exponent, s) ← scanExponent? s
        if fraction.isEmpty && exponent.isNone then
          return (integer? negative whole, s)
        else return (decimal? negative whole fraction (exponent.getD 0), s))
        = some (n, rest) → rest.length < s.length := by
    intro t ht negative h
    simp only [bind, Option.bind_eq_some_iff] at h
    obtain ⟨⟨whole, s₁⟩, h₁, ⟨fraction, s₂⟩, h₂, ⟨exponent, s₃⟩, h₃, h⟩ := h
    simp only at h₂ h₃
    have := length_scanWhole? h₁
    have := length_scanFraction? h₂
    have := length_scanExponent? h₃
    have hr : s₃ = rest := by
      split at h <;> exact (Prod.mk.inj (Option.some.inj h)).2
    subst hr
    omega
  split at h
  rename_i negative t heq
  refine key t ?_ negative h
  split at heq <;> (obtain ⟨-, rfl⟩ := Prod.mk.inj heq; simp)

/-! ## All tokens -/

/-- The blanks between tokens. -/
def isSpace (c : Char) : Bool := c == ' ' || c == '\n' || c == '\t' || c == '\r'

/-- The tokens of a text. -/
def tokens : List Char → List Token
  | [] => []
  | c :: cs =>
    if isSpace c then tokens cs
    else match c with
      | '[' => .openArray :: tokens cs
      | ']' => .closeArray :: tokens cs
      | '\x7b' => .openObject :: tokens cs
      | '\x7d' => .closeObject :: tokens cs
      | ',' => .comma :: tokens cs
      | ':' => .colon :: tokens cs
      | '"' =>
        match h : scanString? cs with
        | some (s, rest) =>
          have := length_scanString? h
          .string s :: tokens rest
        | none => [.unknown]
      | 'n' => if "ull".toList.isPrefixOf cs then .null :: tokens (cs.drop 3) else [.unknown]
      | 't' => if "rue".toList.isPrefixOf cs then .bool true :: tokens (cs.drop 3) else [.unknown]
      | 'f' => if "alse".toList.isPrefixOf cs then .bool false :: tokens (cs.drop 4) else [.unknown]
      | c =>
        match h : scanNumber? (c :: cs) with
        | some (n, rest) =>
          have := length_scanNumber? h
          .number n :: tokens rest
        | none => [.unknown]
termination_by s => s.length
decreasing_by
  all_goals simp only [List.length_cons, List.length_drop] at *
  all_goals omega

end SwitchFleet.Json
