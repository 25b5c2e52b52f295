import Mathlib.Data.List.Induction
import SwitchFleet.Agent.Netlink

/-!
# Datagrams of the kernel

The kernel packs its messages into datagrams as it likes, each message padded to a multiple of four
bytes. A look-up goes from message to message, and from datagram to datagram, up to the first message
that decides. How the messages themselves are read is left open here.

* `Decides`, `Skips`: what a message of the kernel says about a link, and the messages that say nothing.
* `Reader.Framed`: what is relied on when messages are read. **`framed_ofBytes?`** holds this for the
  reader that is used.
* `Reaches`, `Stops`: the offsets in a datagram at which a message is looked for, and what comes of it
  where the search ends. **`decide?_eq_iff`**: a datagram decides what comes of it there.
* `Frame`: a message with its padding. **`reaches_datagram`**: messages that say nothing are passed over.
* **`lookUpWith_answers`**: a look-up answers with the first message that decides.
-/

namespace SwitchFleet.Netlink

/-! ## Addresses -/

/-- A byte as two digits, which are lower-case hexadecimal ones. -/
def digits (b : UInt8) : List Char := [Nat.digitChar (b.toNat / 16), Nat.digitChar (b.toNat % 16)]

/-- The digits of some bytes, with a colon between each two bytes. -/
def colonDigits : List UInt8 → List Char
  | [] => []
  | [b] => digits b
  | b :: bs => digits b ++ ':' :: colonDigits bs

theorem toList_hexByte (b : UInt8) : (hexByte b).toList = digits b := by
  have hlt : b.toNat < 256 := b.toNat_lt
  have hsmall : b.toNat / 16 < 16 := by omega
  unfold hexByte Text.hex
  rw [String.toList_ofList, Nat.toDigits_eq_if (by decide)]
  split
  · rename_i h
    rw [digits, Nat.div_eq_of_lt h, Nat.mod_eq_of_lt h]
    rfl
  · rw [Nat.toDigits_of_lt_base hsmall]
    rfl

theorem addressText_eq (value : List UInt8) :
    addressText value = String.ofList (colonDigits value) := by
  refine String.toList_injective ?_
  rw [addressText, String.toList_intercalate, String.toList_ofList, List.map_map]
  induction value with
  | nil => rfl
  | cons b rest ih =>
    rcases rest with _ | ⟨c, rest⟩
    · simp [colonDigits, toList_hexByte]
    · rw [List.map_cons, List.map_cons, List.intercalate_cons_cons, ← List.map_cons, ih]
      simp [colonDigits, toList_hexByte]

/-! ## What messages say -/

/-- What a message decides: a link has the first of its addresses that is not empty, if it has one, and
an error of the kernel is reported with its number. -/
inductive Decides : Message → LinkReply → Prop
  | address {before after : List Attribute} {value : List UInt8}
    (hbefore : ∀ a ∈ before, a.kind = 1 → a.value = []) (hvalue : value ≠ []) :
    Decides (.link (before ++ ⟨1, value⟩ :: after)) (.ok (some (String.ofList (colonDigits value))))
  | noAddress {attributes : List Attribute} (h : ∀ a ∈ attributes, a.kind = 1 → a.value = []) :
    Decides (.link attributes) (.ok none)
  | failure {number : Nat} (hpos : 0 < number) (hle : number ≤ 4095) :
    Decides (.error (-number)) (.error (.system number))

/-- A message that decides nothing: it says that something succeeded, or it is about something else. -/
inductive Skips : Message → Prop
  | success : Skips (.error 0)
  | other : Skips .other

theorem Decides.decide?_eq {m : Message} {r : LinkReply} (h : Decides m r) : m.decide? = some r := by
  cases h with
  | @address before after value hbefore hvalue =>
    have hnone : before.find? (fun a => a.kind == 1 && !a.value.isEmpty) = none := by
      simpa [List.find?_eq_none] using hbefore
    have hsome : (⟨1, value⟩ :: after : List Attribute).find?
        (fun a => a.kind == 1 && !a.value.isEmpty) = some ⟨1, value⟩ := by
      simp [hvalue]
    rw [Message.decide?, address?, List.find?_append, hnone, Option.none_or, hsome, Option.map_some,
      addressText_eq]
  | @noAddress attributes h =>
    have hnone : attributes.find? (fun a => a.kind == 1 && !a.value.isEmpty) = none := by
      simpa [List.find?_eq_none] using h
    rw [Message.decide?, address?, hnone, Option.map_none]
  | @failure number hpos hle =>
    have hne : -(number : Int) ≠ 0 := by omega
    rw [Message.decide?, if_neg hne, Int.neg_neg, Int.toNat_natCast]

theorem decide?_eq_none {m : Message} : m.decide? = none ↔ Skips m := by
  cases m with
  | link attributes => exact iff_of_false nofun nofun
  | error code =>
    dsimp only [Message.decide?]
    split
    · rename_i h
      exact iff_of_true rfl (h ▸ .success)
    · rename_i h
      refine iff_of_false nofun fun hs => ?_
      cases hs
      exact h rfl
  | other => exact iff_of_true rfl .other

/-- **Every message of the kernel** decides something or nothing, where its error numbers are those that
the kernel has. -/
theorem skips_or_decides {m : Message} (h : ∀ code, m = .error code → -4095 ≤ code ∧ code ≤ 0) :
    Skips m ∨ ∃ r, Decides m r := by
  cases m with
  | link attributes =>
    right
    rcases hfind : attributes.find? (fun a => a.kind == 1 && !a.value.isEmpty) with _ | ⟨kind, value⟩
    · exact ⟨_, .noAddress (by simpa [List.find?_eq_none] using hfind)⟩
    · obtain ⟨hfound, before, after, rfl, hbefore⟩ := List.find?_eq_some_iff_append.mp hfind
      obtain ⟨rfl, hvalue⟩ : kind = 1 ∧ value ≠ [] := by simpa using hfound
      exact ⟨_, .address (fun a ha hkind => by simpa [hkind] using hbefore a ha) hvalue⟩
  | error code =>
    obtain ⟨hge, hle⟩ := h code rfl
    by_cases hzero : code = 0
    · exact .inl (hzero ▸ .success)
    · obtain ⟨number, rfl⟩ : ∃ number : Nat, code = -number := ⟨code.natAbs, by omega⟩
      exact .inr ⟨_, .failure (by omega) (by omega)⟩
  | other => exact .inl .other

/-! ## Reading messages -/

/-- What is relied on when messages are read. There is no message in fewer bytes than its header has, or
than it says that it has, and a message is the same whatever comes after it. -/
structure Reader.Framed (read : Reader) : Prop where
  header_le : ∀ {bs m size}, read bs = some (m, size) → headerSize ≤ bs.length
  size_le : ∀ {bs m size}, read bs = some (m, size) → size ≤ bs.length
  append : ∀ {bs m size} (rest), read bs = some (m, size) → read (bs ++ rest) = some (m, size)

theorem natAt_append {bs : List UInt8} {offset size : Nat} (h : offset + size ≤ bs.length)
    (rest : List UInt8) : natAt (bs ++ rest) offset size = natAt bs offset size := by
  unfold natAt
  rw [List.drop_append_of_le_length (by omega), List.take_append_of_le_length]
  rw [List.length_drop]
  omega

theorem ofBytes?_inv {bs : List UInt8} {m : Message} {size : Nat}
    (h : Message.ofBytes? bs = some (m, size)) :
    size = natAt bs 0 4 ∧ headerSize ≤ size ∧ size ≤ bs.length ∧
      messageOf? (natAt bs 4 2) ((bs.take size).drop headerSize) = some m := by
  unfold Message.ofBytes? at h
  dsimp only at h
  split at h
  · cases h
  · obtain ⟨m', hm, he⟩ := Option.map_eq_some_iff.mp h
    obtain ⟨rfl, rfl⟩ := Prod.mk.inj he
    exact ⟨rfl, by omega, by omega, hm⟩

/-- **Messages as the kernel writes them** are read in this way. -/
theorem framed_ofBytes? : Reader.Framed Message.ofBytes? where
  header_le h := Nat.le_trans (ofBytes?_inv h).2.1 (ofBytes?_inv h).2.2.1
  size_le h := (ofBytes?_inv h).2.2.1
  append {bs m size} rest h := by
    obtain ⟨hsize, hge, hle, hm⟩ := ofBytes?_inv h
    have hheader : 16 ≤ bs.length := Nat.le_trans hge hle
    unfold Message.ofBytes?
    dsimp only
    rw [natAt_append (by omega), natAt_append (by omega), ← hsize, List.take_append_of_le_length hle,
      hm, List.length_append, if_neg (by omega)]
    rfl

/-! ## The search in a datagram -/

section

variable (read : Reader) (bs : List UInt8)

/-- After a number of messages that decide nothing, the next one is looked for at an offset. -/
inductive Reaches : Nat → Nat → Prop
  | start : Reaches 0 0
  | skip {n offset size : Nat} {m : Message} (h : Reaches n offset) (hlt : offset < bs.length)
    (hread : read (bs.drop offset) = some (m, size)) (hsize : size ≠ 0) (hm : Skips m) :
    Reaches (n + 1) (offset + padded size)

/-- What comes of a datagram if the search ends at an offset. -/
inductive Stops (offset : Nat) : Option LinkReply → Prop
  | ended (hle : bs.length ≤ offset) : Stops offset none
  | empty {m : Message} (hlt : offset < bs.length) (hread : read (bs.drop offset) = some (m, 0)) :
    Stops offset none
  | malformed (hlt : offset < bs.length) (hread : read (bs.drop offset) = none) :
    Stops offset (some (.error .malformed))
  | decided {m : Message} {size : Nat} {r : LinkReply} (hlt : offset < bs.length)
    (hread : read (bs.drop offset) = some (m, size)) (hsize : size ≠ 0) (hm : m.decide? = some r) :
    Stops offset (some r)

variable {read bs} {n offset : Nat} {x : Option LinkReply}

theorem decideFrom?_of_stops (h : Stops read bs offset x) : decideFrom? read bs offset = x := by
  rw [decideFrom?]
  cases h with
  | ended hle => rw [if_neg (by omega)]
  | empty hlt hread => rw [if_pos hlt, hread]; rfl
  | malformed hlt hread => rw [if_pos hlt, hread]
  | decided hlt hread hsize hm =>
    rw [if_pos hlt, hread]
    dsimp only
    rw [if_neg hsize, hm]

theorem decide?_of_reaches (h : Reaches read bs n offset) :
    decide? read bs = decideFrom? read bs offset := by
  induction h with
  | start => rfl
  | skip h hlt hread hsize hm ih =>
    rw [ih, decideFrom?, if_pos hlt, hread]
    dsimp only
    rw [if_neg hsize, decide?_eq_none.mpr hm]

/-- **The search ends**, after any number of messages. -/
theorem exists_stops (h : Reaches read bs n offset) :
    ∃ n' offset' x, Reaches read bs n' offset' ∧ Stops read bs offset' x := by
  fun_induction decideFrom? read bs offset generalizing n with
  | case1 offset hlt hread => exact ⟨n, offset, _, h, .malformed hlt hread⟩
  | case2 offset hlt m hread => exact ⟨n, offset, _, h, .empty hlt hread⟩
  | case3 offset hlt m size hread hsize r hm => exact ⟨n, offset, _, h, .decided hlt hread hsize hm⟩
  | case4 offset hlt m size hread hsize hm ih =>
    exact ih (.skip h hlt hread hsize (decide?_eq_none.mp hm))
  | case5 offset hlt => exact ⟨n, offset, _, h, .ended (Nat.le_of_not_lt hlt)⟩

/-- **What a datagram decides** is what comes of it where the search ends, and the search ends in one
way only. -/
theorem decide?_eq_iff :
    decide? read bs = x ↔ ∃ n offset, Reaches read bs n offset ∧ Stops read bs offset x := by
  refine ⟨?_, fun ⟨n, offset, hreaches, hstops⟩ =>
    (decide?_of_reaches hreaches).trans (decideFrom?_of_stops hstops)⟩
  rintro rfl
  have hstart : Reaches read bs 0 0 := .start
  obtain ⟨n, offset, x, hreaches, hstops⟩ := exists_stops hstart
  refine ⟨n, offset, hreaches, ?_⟩
  rwa [decide?_of_reaches hreaches, decideFrom?_of_stops hstops]

theorem dvd_padded (size : Nat) : 4 ∣ padded size := Nat.dvd_mul_left ..

theorem end_le (hread : read.Framed) {m : Message} {size : Nat} (hlt : offset < bs.length)
    (h : read (bs.drop offset) = some (m, size)) : offset + size ≤ bs.length := by
  have hle := hread.size_le h
  rw [List.length_drop] at hle
  omega

/-- Each message takes four bytes at least, and the search does not leave the datagram by more than
padding. -/
theorem Reaches.bounds (hread : read.Framed) (h : Reaches read bs n offset) :
    4 * n ≤ offset ∧ 4 ∣ offset ∧ offset ≤ padded bs.length := by
  induction h with
  | start => exact ⟨Nat.le_refl 0, Nat.dvd_zero 4, Nat.zero_le _⟩
  | @skip n offset size m h hlt hmessage hsize hm ih =>
    obtain ⟨hn, hdvd, -⟩ := ih
    have hle := end_le hread hlt hmessage
    refine ⟨?_, Nat.dvd_add hdvd (dvd_padded size), ?_⟩
    · unfold padded
      omega
    · unfold padded
      omega

theorem decide?_ne_malformed (m : Message) : m.decide? ≠ some (.error .malformed) := by
  cases m with
  | link attributes => exact nofun
  | error code =>
    dsimp only [Message.decide?]
    split <;> exact nofun
  | other => exact nofun

/-- A datagram is malformed only if a message cannot be read and none before it decides. -/
theorem unreadable_of_malformed (h : decide? read bs = some (.error .malformed)) :
    ∃ n offset, Reaches read bs n offset ∧ offset < bs.length ∧ read (bs.drop offset) = none := by
  obtain ⟨n, offset, hreaches, hstops⟩ := decide?_eq_iff.mp h
  cases hstops with
  | malformed hlt hread => exact ⟨n, offset, hreaches, hlt, hread⟩
  | decided hlt hread hsize hm => exact absurd hm (decide?_ne_malformed _)

end

/-! ## Messages in datagrams -/

/-- A message as it is sent: its bytes, and the padding after them. -/
structure Frame (read : Reader) where
  message : Message
  bytes : List UInt8
  padding : List UInt8
  read_bytes : read bytes = some (message, bytes.length)
  length_padding : bytes.length + padding.length = padded bytes.length

variable {read : Reader}

/-- A message with its padding. -/
def Frame.wire (f : Frame read) : List UInt8 := f.bytes ++ f.padding

/-- The bytes of a datagram with some messages. -/
def datagram (fs : List (Frame read)) : List UInt8 := fs.flatMap Frame.wire

/-- Messages that are packed into datagrams: there is no empty one, and each is received whole. -/
def Packed (groups : List (List (Frame read))) : Prop :=
  ∀ g ∈ groups, g ≠ [] ∧ (datagram g).length ≤ bufferSize

theorem datagram_append (fs fs' : List (Frame read)) :
    datagram (fs ++ fs') = datagram fs ++ datagram fs' := List.flatMap_append

theorem Frame.length_wire (f : Frame read) : f.wire.length = padded f.bytes.length := by
  rw [wire, List.length_append, f.length_padding]

theorem Frame.length_pos (hread : read.Framed) (f : Frame read) : 0 < f.bytes.length :=
  Nat.lt_of_lt_of_le (by decide) (hread.header_le f.read_bytes)

theorem Frame.read_drop (hread : read.Framed) (f : Frame read) (bs rest : List UInt8) :
    read ((bs ++ (f.bytes ++ rest)).drop bs.length) = some (f.message, f.bytes.length) := by
  rw [List.drop_left]
  exact hread.append rest f.read_bytes

theorem datagram_ne_nil (hread : read.Framed) {fs : List (Frame read)} (h : fs ≠ []) :
    datagram fs ≠ [] := by
  obtain ⟨f, fs, rfl⟩ := List.exists_cons_of_ne_nil h
  have hpos := f.length_pos hread
  intro hnil
  have hlength := congrArg List.length hnil
  rw [datagram, List.flatMap_cons, List.length_append, Frame.wire, List.length_append,
    List.length_nil] at hlength
  omega

/-- **Messages that decide nothing** are passed over, whatever comes after them. -/
theorem reaches_datagram (hread : read.Framed) {fs : List (Frame read)}
    (h : ∀ f ∈ fs, Skips f.message) (rest : List UInt8) :
    Reaches read (datagram fs ++ rest) fs.length (datagram fs).length := by
  induction fs using List.reverseRecOn generalizing rest with
  | nil => exact .start
  | append_singleton fs f ih =>
    obtain ⟨hfs, hf⟩ := List.forall_mem_append.mp h
    have hpos := f.length_pos hread
    have hsplit : datagram (fs ++ [f]) ++ rest = datagram fs ++ (f.bytes ++ (f.padding ++ rest)) := by
      rw [datagram_append, List.append_assoc]
      simp [datagram, Frame.wire]
    have hlength : (datagram (fs ++ [f])).length = (datagram fs).length + padded f.bytes.length := by
      rw [datagram_append, List.length_append, ← f.length_wire]
      simp [datagram]
    rw [hsplit, hlength, List.length_append, List.length_singleton]
    refine (ih hfs _).skip ?_ (f.read_drop hread _ _) (by omega) (hf f (List.mem_singleton_self f))
    rw [List.length_append, List.length_append]
    omega

theorem decide?_datagram (hread : read.Framed) {fs : List (Frame read)}
    (h : ∀ f ∈ fs, Skips f.message) : decide? read (datagram fs) = none := by
  have hreaches := reaches_datagram hread h []
  rw [List.append_nil] at hreaches
  exact decide?_eq_iff.mpr ⟨_, _, hreaches, .ended (Nat.le_refl _)⟩

/-- **The first message that decides** does so whatever comes after it. -/
theorem decide?_of_decides (hread : read.Framed) {fs : List (Frame read)} {d : Frame read}
    {r : LinkReply} (h : ∀ f ∈ fs, Skips f.message) (hd : Decides d.message r) (rest : List UInt8) :
    decide? read (datagram fs ++ (d.bytes ++ rest)) = some r := by
  have hpos := d.length_pos hread
  have hlt : (datagram fs).length < (datagram fs ++ (d.bytes ++ rest)).length := by
    rw [List.length_append, List.length_append]
    omega
  exact decide?_eq_iff.mpr ⟨_, _, reaches_datagram hread h (d.bytes ++ rest),
    .decided hlt (d.read_drop hread _ _) (by omega) hd.decide?_eq⟩

/-! ## Look-ups -/

variable {name : String}

theorem receive_of_decide? {bs : List UInt8} {r : LinkReply}
    (h : decide? read (bs.take bufferSize) = some r) (rest : List (List UInt8)) :
    receive read name (bs :: rest) = (r, rest) := by
  have hne : bs.isEmpty = false := by
    rcases bs with _ | ⟨b, bs⟩
    · rw [List.take_nil, decide?, decideFrom?] at h
      cases h
    · rfl
  rw [receive, hne, if_neg Bool.false_ne_true, h]

theorem receive_packed (hread : read.Framed) {groups : List (List (Frame read))} (hp : Packed groups)
    (h : ∀ f ∈ groups.flatten, Skips f.message) (rest : List (List UInt8)) :
    receive read name (groups.map datagram ++ rest) = receive read name rest := by
  induction groups with
  | nil => rfl
  | cons g groups ih =>
    obtain ⟨⟨hne, hle⟩, hp⟩ := List.forall_mem_cons.mp hp
    rw [List.flatten_cons] at h
    obtain ⟨hg, h⟩ := List.forall_mem_append.mp h
    have hnonempty : (datagram g).isEmpty = false := by
      simpa using datagram_ne_nil hread hne
    rw [List.map_cons, List.cons_append, receive, hnonempty, if_neg Bool.false_ne_true,
      List.take_of_length_le hle, decide?_datagram hread hg]
    exact ih hp h

theorem receive_of_decides (hread : read.Framed) {groups : List (List (Frame read))}
    {before : List (Frame read)} {d : Frame read} {r : LinkReply} (hp : Packed groups)
    (h : ∀ f ∈ groups.flatten ++ before, Skips f.message) (hd : Decides d.message r)
    (hle : (datagram before).length + d.bytes.length ≤ bufferSize) (junk : List UInt8)
    (rest : List (List UInt8)) :
    receive read name (groups.map datagram ++ (datagram before ++ d.bytes ++ junk) :: rest) =
      (r, rest) := by
  obtain ⟨hgroups, hbefore⟩ := List.forall_mem_append.mp h
  rw [receive_packed hread hp hgroups]
  refine receive_of_decide? ?_ rest
  have hlength : (datagram before ++ d.bytes).length ≤ bufferSize := by rwa [List.length_append]
  rw [List.take_append, List.take_of_length_le hlength, List.append_assoc]
  exact decide?_of_decides hread hbefore hd _

theorem exists_group {groups : List (List (Frame read))} {before later : List (Frame read)}
    {d : Frame read} (hp : Packed groups) (h : groups.flatten = before ++ d :: later) :
    ∃ passed start tail rest, groups = passed ++ (start ++ d :: tail) :: rest ∧
      passed.flatten ++ start = before := by
  rcases List.flatten_eq_append_iff.mp h with ⟨as, bs, rfl, rfl, hbs⟩ | ⟨as, bs, c, cs, ds, rfl, rfl, hc⟩
  · obtain ⟨empties, tail, rest, rfl, hempties, -⟩ := List.flatten_eq_cons_iff.mp hbs.symm
    obtain rfl : empties = [] := List.eq_nil_iff_forall_not_mem.mpr fun g hg =>
      (hp g (by simp [hg])).1 (hempties g hg)
    exact ⟨as, [], tail, rest, rfl, List.append_nil _⟩
  · obtain ⟨rfl, -⟩ := List.cons.inj hc
    exact ⟨as, bs, cs, ds, rfl, rfl⟩

/-- However messages are packed into datagrams, the first one that decides is found. -/
theorem receive_of_flatten (hread : read.Framed) {groups : List (List (Frame read))}
    {before later : List (Frame read)} {d : Frame read} {r : LinkReply} (hp : Packed groups)
    (hsplit : groups.flatten = before ++ d :: later) (h : ∀ f ∈ before, Skips f.message)
    (hd : Decides d.message r) (rest : List (List UInt8)) :
    (receive read name (groups.map datagram ++ rest)).1 = r := by
  obtain ⟨passed, start, tail, left, rfl, rfl⟩ := exists_group hp hsplit
  have hpassed : Packed passed := fun g hg => hp g (List.mem_append_left _ hg)
  obtain ⟨-, hle⟩ := hp (start ++ d :: tail) (by simp)
  have hbytes : datagram (start ++ d :: tail) =
      datagram start ++ d.bytes ++ (d.padding ++ datagram tail) := by
    rw [datagram_append, datagram, datagram, datagram, List.flatMap_cons, Frame.wire]
    simp
  have hroom : (datagram start).length + d.bytes.length ≤ bufferSize := by
    rw [hbytes, List.length_append, List.length_append] at hle
    omega
  rw [List.map_append, List.map_cons, List.append_assoc, List.cons_append, hbytes,
    receive_of_decides hread hpassed h hd hroom]

theorem lookUpWith_eq (name : String) (incoming sent : List (List UInt8)) :
    lookUpWith read name ⟨incoming, sent, none⟩ = ((receive read name incoming).1,
      ⟨(receive read name incoming).2, sent ++ [request name], none⟩) := rfl

/-- **What a look-up answers.** However the messages of the kernel are packed into datagrams, the answer is
what the first message that decides says. The rest of its datagram does not matter, and the datagrams
after it are left. Messages that decide nothing are passed over, and every message of the kernel decides
something or nothing. In any datagram at all the search ends after finitely many messages, which all lie
in the datagram, and the datagram is malformed only if a message cannot be read and none before it
decides. -/
theorem lookUpWith_answers (hread : read.Framed) (name : String) (sent : List (List UInt8)) :
    (∀ (groups : List (List (Frame read))) before d later r rest, Packed groups →
      groups.flatten = before ++ d :: later → (∀ f ∈ before, Skips f.message) → Decides d.message r →
        (lookUpWith read name ⟨groups.map datagram ++ rest, sent, none⟩).1 = r) ∧
    (∀ (groups : List (List (Frame read))) (before : List (Frame read)) (d : Frame read) r junk rest,
      Packed groups →
      (∀ f ∈ groups.flatten ++ before, Skips f.message) → Decides d.message r →
      (datagram before).length + d.bytes.length ≤ bufferSize →
        lookUpWith read name
            ⟨groups.map datagram ++ (datagram before ++ d.bytes ++ junk) :: rest, sent, none⟩ =
          (r, ⟨rest, sent ++ [request name], none⟩)) ∧
    (∀ (groups : List (List (Frame read))) rest, Packed groups →
      (∀ f ∈ groups.flatten, Skips f.message) →
        lookUpWith read name ⟨groups.map datagram ++ rest, sent, none⟩ =
          lookUpWith read name ⟨rest, sent, none⟩) ∧
    (∀ m, (∀ code, m = .error code → -4095 ≤ code ∧ code ≤ 0) → Skips m ∨ ∃ r, Decides m r) ∧
    ∀ bs, (∃ n offset, Reaches read bs n offset ∧ Stops read bs offset (decide? read bs)) ∧
      (∀ n offset, Reaches read bs n offset → 4 * n ≤ offset ∧ offset ≤ padded bs.length ∧
        ∀ m size, offset < bs.length → read (bs.drop offset) = some (m, size) →
          offset + size ≤ bs.length) ∧
      (decide? read bs = some (.error .malformed) → ∃ n offset, Reaches read bs n offset ∧
        offset < bs.length ∧ read (bs.drop offset) = none) := by
  refine ⟨fun groups before d later r rest hp hsplit hskips hd => ?_,
    fun groups before d r junk rest hp hskips hd hle => ?_, fun groups rest hp hskips => ?_,
    fun m h => skips_or_decides h, fun bs => ⟨decide?_eq_iff.mp rfl, fun n offset h => ?_,
      unreadable_of_malformed⟩⟩
  · rw [lookUpWith_eq, receive_of_flatten hread hp hsplit hskips hd]
  · rw [lookUpWith_eq, receive_of_decides hread hp hskips hd hle]
  · rw [lookUpWith_eq, lookUpWith_eq, receive_packed hread hp hskips]
  · obtain ⟨hn, -, hle⟩ := h.bounds hread
    exact ⟨hn, hle, fun m size hlt hmessage => end_le hread hlt hmessage⟩

/-! ## A link after an acknowledgement -/

/-- The kernel says that something succeeded. -/
def acknowledgement : Frame Message.ofBytes? where
  message := .error 0
  bytes := [20, 0, 0, 0, 2, 0, 0, 0, 1, 0, 0, 0, 0, 0, 0, 0, 0, 0, 0, 0]
  padding := []
  read_bytes := rfl
  length_padding := rfl

/-- The kernel says which address a link has. -/
def addressed : Frame Message.ofBytes? where
  message := .link [⟨1, [0xaa, 0xbb, 0xcc, 0xdd, 0xee, 0x01]⟩]
  bytes := [42, 0, 0, 0, 16, 0, 0, 0, 1, 0, 0, 0, 0, 0, 0, 0] ++ List.replicate linkSize 0 ++
    [10, 0, 1, 0, 0xaa, 0xbb, 0xcc, 0xdd, 0xee, 0x01]
  padding := [0, 0]
  read_bytes := by
    have hattributes : attributes? [10, 0, 1, 0, 0xaa, 0xbb, 0xcc, 0xdd, 0xee, 0x01] =
        some [⟨1, [0xaa, 0xbb, 0xcc, 0xdd, 0xee, 0x01]⟩] := by
      rw [attributes?]
      change (attributes? []).map _ = _
      rw [attributes?]
      rfl
    change ((attributes? [10, 0, 1, 0, 0xaa, 0xbb, 0xcc, 0xdd, 0xee, 0x01]).map Message.link).map
      (·, 42) = _
    rw [hattributes]
    rfl
  length_padding := rfl

/-- The general theorem at these two messages, in one datagram and in two. -/
theorem address_answered :
    Reader.Framed Message.ofBytes? ∧
      (lookUp "Ethernet0" ⟨[acknowledgement.wire ++ addressed.wire], [], none⟩).1 =
        .ok (some "aa:bb:cc:dd:ee:01") ∧
      (lookUp "Ethernet0" ⟨[acknowledgement.wire, addressed.wire], [], none⟩).1 =
        .ok (some "aa:bb:cc:dd:ee:01") := by
  obtain ⟨hanswer, -⟩ := lookUpWith_answers framed_ofBytes? "Ethernet0" []
  have hskips : ∀ f ∈ [acknowledgement], Skips f.message :=
    List.forall_mem_singleton.mpr .success
  have hdecides : Decides addressed.message (.ok (some "aa:bb:cc:dd:ee:01")) :=
    @Decides.address [] [] _ nofun (List.cons_ne_nil _ _)
  refine ⟨framed_ofBytes?, ?_, ?_⟩
  · have hpacked : Packed [[acknowledgement, addressed]] :=
      List.forall_mem_singleton.mpr ⟨List.cons_ne_nil _ _, by decide⟩
    exact hanswer _ _ addressed [] _ [] hpacked rfl hskips hdecides
  · have hpacked : Packed [[acknowledgement], [addressed]] :=
      List.forall_mem_cons.mpr ⟨⟨List.cons_ne_nil _ _, by decide⟩,
        List.forall_mem_singleton.mpr ⟨List.cons_ne_nil _ _, by decide⟩⟩
    exact hanswer _ _ addressed [] _ [] hpacked rfl hskips hdecides

end SwitchFleet.Netlink
