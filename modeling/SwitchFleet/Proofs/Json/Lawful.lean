import SwitchFleet.Json.Codec
import SwitchFleet.Proofs.Json.Plain
import SwitchFleet.Proofs.Json.Text

/-!
# Lawful codecs

A codec is lawful if it writes plain values only and reads everything back that it wrote. The codec of
a structure is lawful as soon as each of its fields is.

* `Codec.Lawful`: the lawful codecs. `Lawful.text`, `Lawful.word32`, … are those of simple types.
* `Record.Reads`: fields of a structure that are read back from the members they were written to,
  with one rule for each way to add a field.
* **`Record.lawful_codec`**, **`Record.lawful_objectCodec`**: the codec of a structure is lawful.
* **`Lawful.decodeText`**: a value is read back from its text.
-/

namespace SwitchFleet

/-- A codec that writes plain values and reads them back. -/
structure Codec.Lawful {α : Type} (c : Codec α) : Prop where
  plain : ∀ x, (c.encode x).Plain
  decode_encode : ∀ x, c.decode (c.encode x).document = .ok x

/-- The value `x` is written as a plain value, from which it is read back. -/
structure Codec.Restores {α : Type} (c : Codec α) (x : α) : Prop where
  plain : (c.encode x).Plain
  decode_encode : c.decode (c.encode x).document = .ok x

namespace Codec.Restores

variable {α : Type} {c : Codec α}

/-- A value that may be missing is read back if it is there. -/
theorem decode_option {x : α} (h : c.Restores x) :
    c.option.decode (c.encode x).document = .ok (some x) := by
  have hd := h.decode_encode
  have hn := h.plain.not_null
  rcases hv : c.encode x with _ | _ | _ | _ | _ | _
  · rw [hv] at hn
    cases hn
  all_goals
    rw [hv] at hd
    exact congrArg (Except.map some) hd

theorem decodeEntries_map {m : List (String × α)} (h : ∀ e ∈ m, c.Restores e.2) :
    c.decodeEntries (Json.memberDocuments (m.map fun e : String × α => (e.1, c.encode e.2))) = .ok m := by
  induction m with
  | nil => rfl
  | cons e m ih =>
    have he := (h e List.mem_cons_self).decode_encode
    have hm := ih fun e he => h e (List.mem_cons_of_mem _ he)
    rw [List.map_cons, Json.memberDocuments, Codec.decodeEntries, he, hm]
    rfl

theorem keyed {m : Keyed α} (hs : Keyed.Sorted m) (h : ∀ e ∈ m, c.Restores e.2) :
    c.keyed.Restores m where
  plain := by
    refine ⟨hs.map c.encode, Json.plainMembers_iff.mpr fun v hv => ?_⟩
    obtain ⟨e, he, rfl⟩ := List.mem_map.mp hv
    exact (h e he).plain
  decode_encode := by
    change (do return Keyed.ofList (← c.decodeEntries
      (Json.memberDocuments (m.map fun e : String × α => (e.1, c.encode e.2))))) = _
    rw [decodeEntries_map h]
    exact congrArg Except.ok hs.ofList_self

end Codec.Restores

namespace Codec.Lawful

variable {α : Type} {c : Codec α}

theorem restores (h : c.Lawful) (x : α) : c.Restores x := ⟨h.plain x, h.decode_encode x⟩

/-- **Texts.** A value is read back from its text. -/
theorem decodeText (h : c.Lawful) (x : α) : c.decodeText (c.encode x).render = .ok x :=
  (c.decodeText_render (h.plain x).printable).trans (h.decode_encode x)

theorem encode_injective (h : c.Lawful) {x y : α} (he : c.encode x = c.encode y) : x = y := by
  have hx := h.decode_encode x
  rw [he, h.decode_encode y] at hx
  exact (Except.ok.inj hx).symm

/-! ## Simple types -/

theorem text : Codec.text.Lawful := ⟨fun _ => trivial, fun _ => rfl⟩

theorem bool : Codec.bool.Lawful := ⟨fun _ => trivial, fun _ => rfl⟩

theorem word32 : Codec.word32.Lawful where
  plain n := by
    have hn := n.toNat_lt
    simp only [Codec.word32, Json.int, Json.Plain, UInt64.size]
    omega
  decode_encode n := by
    have hn := n.toNat_lt
    have hdecode (m : Int) : Codec.word32.decode (.number (some (.int m))) =
      if 0 ≤ m ∧ m < UInt32.size then .ok (UInt32.ofNat m.toNat) else .error .mismatch := rfl
    have hrange : 0 ≤ (n.toNat : Int) ∧ (n.toNat : Int) < UInt32.size := by
      simp only [UInt32.size]
      omega
    refine (hdecode n.toNat).trans ?_
    rw [if_pos hrange, Int.toNat_natCast, UInt32.ofNat_toNat]

theorem int64 : Codec.int64.Lawful where
  plain n := by
    have h₁ := n.le_toInt
    have h₂ := n.toInt_lt
    simp only [Codec.int64, Json.int, Json.Plain, UInt64.size]
    omega
  decode_encode n := by
    have h₁ := n.le_toInt
    have h₂ := n.toInt_lt
    have hrange : Int64.minValue.toInt ≤ n.toInt ∧ n.toInt ≤ Int64.maxValue.toInt := by
      rw [Int64.toInt_minValue, Int64.toInt_maxValue]
      omega
    exact (if_pos hrange).trans (congrArg Except.ok (Int64.ofInt_toInt n))

theorem names {all : List α} {name : α → String} (h : ∀ x, Codec.ofName all name (name x) = .ok x) :
    (Codec.names all name).Lawful :=
  ⟨fun _ => trivial, h⟩

theorem decodeItems_map (h : c.Lawful) (xs : List α) :
    c.decodeItems (Json.itemDocuments (xs.map c.encode)) = .ok xs := by
  induction xs with
  | nil => rfl
  | cons x xs ih =>
    rw [List.map_cons, Json.itemDocuments, Codec.decodeItems, h.decode_encode, ih]
    rfl

theorem list (h : c.Lawful) : c.list.Lawful where
  plain xs := Json.plainItems_iff.mpr fun v hv => by
    obtain ⟨x, -, rfl⟩ := List.mem_map.mp hv
    exact h.plain x
  decode_encode xs := h.decodeItems_map xs

theorem decode_option (h : c.Lawful) (x : α) :
    c.option.decode (c.encode x).document = .ok (some x) :=
  (h.restores x).decode_option

end Codec.Lawful

/-! ## Structures -/

namespace Record

variable {ρ α β : Type}

/-- The names of the fields. -/
def names (r : Record ρ β) : List String := r.fields.map (·.1)

/-- The slot of a name in the members of a value. -/
def slotOf (ms : Keyed Json) (name : String) : Slot :=
  match ms.get? name with
  | some v => .given v.document
  | none => .missing

/-- The fields `r` of the structure `x` are written as plain members, and `b` is read back from any
object that has these members. -/
structure Reads (r : Record ρ β) (x : ρ) (b : β) : Prop where
  nodup : r.names.Nodup
  nodup_write : ((r.write x).map (·.1)).Nodup
  mem_names : ∀ m ∈ r.write x, m.1 ∈ r.names
  plain : ∀ m ∈ r.write x, m.2.Plain
  sound : ∀ m ∈ r.write x, ∃ fault?, r.fields.lookup m.1 = some fault? ∧ fault? m.2.document = none
  read : ∀ (ms : Keyed Json) (rest : List Slot),
    (∀ name ∈ r.names, ms.get? name = (r.write x).lookup name) →
      r.read (r.names.map (slotOf ms) ++ rest) = .ok (b, rest)

namespace Reads

variable {x : ρ}

theorem of (b : β) : (Record.of b : Record ρ β).Reads x b where
  nodup := .nil
  nodup_write := .nil
  mem_names _ hm := absurd hm List.not_mem_nil
  plain _ hm := absurd hm List.not_mem_nil
  sound _ hm := absurd hm List.not_mem_nil
  read _ _ _ := rfl

variable {r : Record ρ (α → β)} {f : α → β} {name : String} {get : ρ → α} {c : Codec α}
  {presence : Presence α} {omits : α → Bool}

theorem names_field : (r.field name get c presence omits).names = r.names ++ [name] := by
  simp [names, Record.field]

theorem write_field_omitted (ho : omits (get x) = true) :
    (r.field name get c presence omits).write x = r.write x := by
  simp [Record.field, ho]

theorem write_field (ho : omits (get x) = false) :
    (r.field name get c presence omits).write x = r.write x ++ [(name, c.encode (get x))] := by
  simp [Record.field, ho]

theorem lookup_eq_none {γ : Type} {entries : List (String × γ)}
    (hn : name ∉ entries.map (·.1)) : entries.lookup name = none := by
  rw [List.lookup_eq_none_iff]
  intro e he
  exact bne_iff_ne.mpr fun h => hn (List.mem_map.mpr ⟨e, he, h.symm⟩)

theorem mem_of_lookup {γ : Type} {entries : List (String × γ)} {k : String} {v : γ}
    (h : entries.lookup k = some v) : (k, v) ∈ entries := by
  obtain ⟨before, after, rfl, -⟩ := List.lookup_eq_some_iff.mp h
  simp

theorem nodup_concat {names : List String} (h : names.Nodup) (hn : name ∉ names) :
    (names ++ [name]).Nodup := by
  refine List.nodup_append.mpr ⟨h, by simp, fun a ha b hb he => ?_⟩
  rw [List.mem_singleton.mp hb] at he
  exact hn (he ▸ ha)

theorem not_mem_write (h : r.Reads x f) (hn : name ∉ r.names) :
    name ∉ (r.write x).map (·.1) := fun hm => by
  obtain ⟨m, hm, he⟩ := List.mem_map.mp hm
  exact hn (he ▸ h.mem_names m hm)

theorem lookup_field {k : String} {fault : Document → Option Fault}
    (hk : r.fields.lookup k = some fault) :
    (r.field name get c presence omits).fields.lookup k = some fault := by
  simp [Record.field, List.lookup_append, hk]

theorem read_field (h : r.Reads x f) {ms : Keyed Json} (rest : List Slot)
    (hms : ∀ k ∈ r.names, ms.get? k = (r.write x).lookup k) :
    (r.field name get c presence omits).read
      ((r.field name get c presence omits).names.map (slotOf ms) ++ rest) =
        (readSlot c presence (slotOf ms name)).map fun a => (f a, rest) := by
  rw [names_field, List.map_append, List.append_assoc]
  simp only [Record.field, List.map_cons, List.map_nil, List.singleton_append]
  rw [h.read ms _ hms]
  change (do return (f (← readSlot c presence (slotOf ms name)), rest)) = _
  cases readSlot c presence (slotOf ms name) <;> rfl

theorem omitted (h : r.Reads x f) (hn : name ∉ r.names) (ho : omits (get x) = true)
    (hp : presence = .default (get x) ∨ presence = .named (get x)) :
    (r.field name get c presence omits).Reads x (f (get x)) where
  nodup := by
    rw [names_field]
    exact nodup_concat h.nodup hn
  nodup_write := by
    rw [write_field_omitted ho]
    exact h.nodup_write
  mem_names := by
    rw [write_field_omitted ho, names_field]
    exact fun m hm => List.mem_append_left _ (h.mem_names m hm)
  plain := by
    rw [write_field_omitted ho]
    exact h.plain
  sound := by
    rw [write_field_omitted ho]
    intro m hm
    obtain ⟨fault, hl, hf⟩ := h.sound m hm
    exact ⟨fault, lookup_field hl, hf⟩
  read ms rest hms := by
    rw [write_field_omitted ho, names_field] at hms
    have hnone : ms.get? name = none :=
      (hms name (by simp)).trans (lookup_eq_none (h.not_mem_write hn))
    rw [h.read_field rest fun k hk => hms k (List.mem_append_left _ hk), slotOf, hnone]
    rcases hp with rfl | rfl <;> rfl

theorem written (h : r.Reads x f) (hn : name ∉ r.names) (ho : omits (get x) = false)
    (hc : (c.encode (get x)).Plain) (hd : c.decode (c.encode (get x)).document = .ok (get x)) :
    (r.field name get c presence omits).Reads x (f (get x)) where
  nodup := by
    rw [names_field]
    exact nodup_concat h.nodup hn
  nodup_write := by
    rw [write_field ho, List.map_append]
    exact nodup_concat h.nodup_write (h.not_mem_write hn)
  mem_names := by
    rw [write_field ho, names_field]
    intro m hm
    rcases List.mem_append.mp hm with hm | hm
    · exact List.mem_append_left _ (h.mem_names m hm)
    · rw [List.mem_singleton.mp hm]
      simp
  plain := by
    rw [write_field ho]
    intro m hm
    rcases List.mem_append.mp hm with hm | hm
    · exact h.plain m hm
    · rw [List.mem_singleton.mp hm]
      exact hc
  sound := by
    rw [write_field ho]
    intro m hm
    rcases List.mem_append.mp hm with hm | hm
    · obtain ⟨fault, hl, hf⟩ := h.sound m hm
      exact ⟨fault, lookup_field hl, hf⟩
    · rw [List.mem_singleton.mp hm]
      refine ⟨fault? c, ?_, by simp only [fault?, hd]⟩
      simp [Record.field, List.lookup_append, lookup_eq_none hn]
  read ms rest hms := by
    rw [write_field ho, names_field] at hms
    have hold : ∀ k ∈ r.names, ms.get? k = (r.write x).lookup k := by
      intro k hk
      rw [hms k (List.mem_append_left _ hk), List.lookup_append]
      have hne : (k == name) = false := beq_eq_false_iff_ne.mpr fun he => hn (he ▸ hk)
      simp [List.lookup_cons, hne]
    have hsome : ms.get? name = some (c.encode (get x)) := by
      rw [hms name (by simp), List.lookup_append, lookup_eq_none (h.not_mem_write hn)]
      simp
    rw [h.read_field rest hold, slotOf, hsome, readSlot, hd]
    rfl

theorem required (h : r.Reads x f) (hn : name ∉ r.names) (hc : c.Lawful) :
    (r.required name get c).Reads x (f (get x)) :=
  h.written hn rfl (hc.plain _) (hc.decode_encode _)

theorem defaulted (h : r.Reads x f) (hn : name ∉ r.names) (hc : c.Lawful) {a : α} :
    (r.defaulted name get c a).Reads x (f (get x)) :=
  h.written hn rfl (hc.plain _) (hc.decode_encode _)

end Reads

section

variable {x : ρ} {name : String}

/-- A field that is left out if it holds nothing, and read back otherwise. -/
theorem Reads.restored {r : Record ρ (Option α → β)} {f : Option α → β} {get : ρ → Option α}
    {c : Codec α} (h : r.Reads x f) (hn : name ∉ r.names) (hc : ∀ a ∈ get x, c.Restores a) :
    (r.optional name get c).Reads x (f (get x)) := by
  rcases hg : get x with _ | a
  · rw [← hg]
    exact h.omitted hn (by rw [hg]; rfl) (.inl (by rw [hg]))
  · rw [← hg]
    refine h.written hn (by rw [hg]; rfl) ?_ ?_ <;> rw [hg]
    · exact (hc a hg).plain
    · exact (hc a hg).decode_option

theorem Reads.optional {r : Record ρ (Option α → β)} {f : Option α → β} {get : ρ → Option α}
    {c : Codec α} (h : r.Reads x f) (hn : name ∉ r.names) (hc : c.Lawful) :
    (r.optional name get c).Reads x (f (get x)) :=
  h.restored hn fun a _ => hc.restores a

theorem Reads.string {r : Record ρ (String → β)} {f : String → β} {get : ρ → String}
    (h : r.Reads x f) (hn : name ∉ r.names) : (r.string name get).Reads x (f (get x)) := by
  rcases ho : (get x).isEmpty
  · exact h.written hn ho trivial rfl
  · exact h.omitted hn ho (.inl (by rw [String.isEmpty_iff.mp ho]))

theorem Reads.listed {r : Record ρ (List α → β)} {f : List α → β} {get : ρ → List α} {c : Codec α}
    (h : r.Reads x f) (hn : name ∉ r.names) (hc : c.Lawful) :
    (r.listed name get c).Reads x (f (get x)) := by
  rcases ho : (get x).isEmpty
  · exact h.written hn ho (hc.list.plain _) (hc.list.decode_encode _)
  · exact h.omitted hn ho (.inl (by rw [List.isEmpty_iff.mp ho]))

end

/-! ## Objects read back -/

mutual

theorem isWhole_document (v : Json) : v.document.isWhole = true := by
  cases v with
  | null | bool | number | string => rfl
  | array xs => exact wholeItems_documents xs
  | object ms => exact wholeMembers_documents ms

theorem wholeItems_documents (xs : List Json) :
    Document.wholeItems (Json.itemDocuments xs) = true := by
  cases xs with
  | nil => rfl
  | cons x xs =>
    rw [Json.itemDocuments, Document.wholeItems, isWhole_document x, wholeItems_documents xs]
    rfl

theorem wholeMembers_documents (ms : List (String × Json)) :
    Document.wholeMembers (Json.memberDocuments ms) = true := by
  cases ms with
  | nil => rfl
  | cons m ms =>
    rw [Json.memberDocuments, Document.wholeMembers, isWhole_document m.2, wholeMembers_documents ms]
    rfl

end

/-- The fault of the field `name`, if the members have it. -/
def faultOf (fields : List (String × (Document → Option Fault))) (name : String) (ms : Keyed Json) :
    Option Fault :=
  (ms.get? name).bind fun v => (fields.lookup name).bind fun fault? => fault? v.document

/-- **Faults in members.** Where the fields other than `name` have no fault, that of `name` counts. -/
theorem memberFault_eq (once : Bool) (seen : List String) (name : String)
    {fields : List (String × (Document → Option Fault))} {ms : Keyed Json} (hs : Keyed.Sorted ms)
    (hf : ∀ m ∈ ms, m.1 ≠ name → ∀ fault?, fields.lookup m.1 = some fault? → fault? m.2.document = none)
    (hseen : ∀ m ∈ ms, m.1 ∉ seen) :
    memberFault? once fields seen (Json.memberDocuments ms) = faultOf fields name ms := by
  induction ms generalizing seen with
  | nil => rfl
  | cons m ms ih =>
    obtain ⟨k, v⟩ := m
    have hk : seen.contains k = false := by simpa using hseen _ List.mem_cons_self
    have hrest (seen : List String) (hseen : ∀ m ∈ ms, m.1 ∉ seen) :=
      ih seen hs.2 (fun m hm => hf m (List.mem_cons_of_mem _ hm)) hseen
    have hlater : ∀ m ∈ ms, m.1 ∉ seen := fun m hm => hseen m (List.mem_cons_of_mem _ hm)
    have hnext : ∀ m ∈ ms, m.1 ∉ k :: seen := fun m hm => by
      rw [List.mem_cons, not_or]
      exact ⟨Ne.symm (Keyed.ne_of_lt (hs.1 m hm)), hlater m hm⟩
    have hnone : Keyed.get? k ms = none := hs.get?_head
    rw [Json.memberDocuments, memberFault?]
    rcases hl : fields.lookup k with _ | fault?
    · -- a name that is not a field
      simp only [isWhole_document, if_true, hrest seen hlater]
      by_cases hname : name = k
      · simp [faultOf, Keyed.get?, hname, hl, hnone]
      · simp [faultOf, Keyed.get?, hname]
    · simp only [hk, Bool.and_false, Bool.false_eq_true, if_false, hrest _ hnext]
      by_cases hname : name = k
      · subst hname
        simp [faultOf, Keyed.get?, hl, hnone]
      · rw [hf _ List.mem_cons_self (Ne.symm hname) fault? hl]
        simp [faultOf, Keyed.get?, hname]

theorem memberFault_eq_none (once : Bool)
    {fields : List (String × (Document → Option Fault))} {ms : Keyed Json} (hs : Keyed.Sorted ms)
    (hf : ∀ m ∈ ms, ∃ fault?, fields.lookup m.1 = some fault? ∧ fault? m.2.document = none) :
    memberFault? once fields [] (Json.memberDocuments ms) = none := by
  have hpass : ∀ m ∈ ms, ∀ fault?, fields.lookup m.1 = some fault? → fault? m.2.document = none := by
    intro m hm fault? hl
    obtain ⟨other, hl', hv⟩ := hf m hm
    cases hl.symm.trans hl'
    exact hv
  rw [memberFault_eq once [] "" hs (fun m hm _ => hpass m hm) fun _ _ => List.not_mem_nil]
  rcases hv : ms.get? "" with _ | v
  · simp [faultOf, hv]
  · rcases hl : fields.lookup "" with _ | fault?
    · simp [faultOf, hl]
    · simpa [faultOf, hv, hl] using hpass _ (Keyed.mem_of_get? hv) fault? hl

theorem slot_memberDocuments {ms : Keyed Json} (hs : Keyed.Sorted ms) (name : String) :
    slot (Json.memberDocuments ms) name = slotOf ms name := by
  have hlookup : (Json.memberDocuments ms).reverse.lookup (some name) =
      (ms.get? name).map Json.document := by
    induction ms with
    | nil => rfl
    | cons m ms ih =>
      obtain ⟨k, v⟩ := m
      rw [Json.memberDocuments, List.reverse_cons, List.lookup_append, ih hs.2]
      by_cases hk : name = k
      · rw [hk, hs.get?_head]
        simp [Keyed.get?]
      · have hne : (name == k) = false := beq_eq_false_iff_ne.mpr hk
        simp [Keyed.get?, hk, List.lookup_cons, hne]
  unfold slot slotOf
  rw [hlookup]
  cases ms.get? name <;> rfl

theorem Reads.decodeMembers {r : Record ρ β} {x : ρ} {b : β} (h : r.Reads x b) (once : Bool) :
    r.decodeMembers once (Json.memberDocuments (Keyed.ofList (r.write x))) = .ok b := by
  have hs := Keyed.sorted_ofList (r.write x)
  have hfault := memberFault_eq_none once hs fun m hm => h.sound m (Keyed.mem_of_mem_ofList hm)
  have hslots : r.fields.map (fun f => slot (Json.memberDocuments (Keyed.ofList (r.write x))) f.1) =
      r.names.map (slotOf (Keyed.ofList (r.write x))) ++ [] := by
    simp [names, slot_memberDocuments hs]
  have hread := h.read (Keyed.ofList (r.write x)) [] fun k _ => Keyed.get?_ofList h.nodup_write k
  unfold Record.decodeMembers
  rw [hfault, hslots, hread]
  rfl

section

variable {x : ρ} {r : Record ρ (α → β)} {f : α → β} {name : String} {get : ρ → α} {c : Codec α}
  {presence : Presence α} {omits : α → Bool}

/-- **The last field.** Where the fields are as they were written, one more field decides. -/
theorem Reads.decodeMembers_field (h : r.Reads x f) {ms : Keyed Json} (hs : Keyed.Sorted ms)
    (hms : ∀ k ∈ r.names, ms.get? k = (r.write x).lookup k) (hn : name ∉ r.names) (once : Bool) :
    (r.field name get c presence omits).decodeMembers once (Json.memberDocuments ms) =
      (readSlot c presence (slotOf ms name)).map f := by
  have hpass : ∀ m ∈ ms, m.1 ≠ name → ∀ fault?,
      (r.field name get c presence omits).fields.lookup m.1 = some fault? →
        fault? m.2.document = none := by
    intro m hm hne fault? hl
    have hold : r.fields.lookup m.1 = some fault? := by
      simpa [Record.field, List.lookup_append, List.lookup_cons, beq_eq_false_iff_ne.mpr hne] using hl
    have hmem : m.1 ∈ r.names := List.mem_map.mpr ⟨_, mem_of_lookup hold, rfl⟩
    have hget : ms.get? m.1 = some m.2 := hs.get?_of_mem hm
    obtain ⟨other, hl', hv⟩ := h.sound m (mem_of_lookup ((hms m.1 hmem).symm.trans hget))
    cases hold.symm.trans hl'
    exact hv
  have hlast : faultOf (r.field name get c presence omits).fields name ms =
      (ms.get? name).bind fun v => fault? c v.document := by
    simp [faultOf, Record.field, List.lookup_append, lookup_eq_none hn]
  have hslots : (r.field name get c presence omits).fields.map
      (fun f => slot (Json.memberDocuments ms) f.1) =
        (r.field name get c presence omits).names.map (slotOf ms) ++ [] := by
    simp [names, slot_memberDocuments hs]
  unfold Record.decodeMembers
  rw [memberFault_eq once [] name hs hpass fun _ _ => List.not_mem_nil, hlast, hslots,
    h.read_field [] hms]
  unfold slotOf
  rcases ms.get? name with _ | v
  · cases readSlot c presence .missing <;> rfl
  · simp only [Option.bind_some, readSlot, fault?]
    cases c.decode v.document <;> rfl

end

/-- **Structures.** The codec of a structure is lawful if its fields are read back. -/
theorem lawful_codec {r : Record ρ ρ} (h : ∀ x, r.Reads x x) : r.codec.Lawful :=
  ⟨fun x => Json.plain_ofMembers (h x).plain, fun x => (h x).decodeMembers true⟩

theorem restores_objectCodec {r : Record ρ ρ} {x : ρ} (h : r.Reads x x) : r.objectCodec.Restores x :=
  ⟨Json.plain_ofMembers h.plain, h.decodeMembers false⟩

/-- **Structures read from objects only.** -/
theorem lawful_objectCodec {r : Record ρ ρ} (h : ∀ x, r.Reads x x) : r.objectCodec.Lawful :=
  ⟨fun x => (restores_objectCodec (h x)).plain, fun x => (restores_objectCodec (h x)).decode_encode⟩

end Record

end SwitchFleet
