import SwitchFleet.Proofs.Controller.Settling

/-!
# Switches that are adopted

The whole program at work on a new switch: attempts at the switch, which apply a resource for each
interface of the device as its agent lists it, and then attempts at these resources. The store of the
device may fail any call.

* `Host.Mirrored`: the admin statuses that are configured are those by the state.
* `Fleet.listing`, `Fleet.source`: what the agent asked its device when it listed the interfaces in one
  attempt, and in the last attempt that applied a resource.
* `Fleet.Listed`: a specification that was made of a listed interface. **`listed_source`**: every
  specification was, in the last attempt that applied it.
* **`adopted`**: what becomes of the admin statuses. `adopted_down`: one is lost.
* `plainWorld`: the same world, where an agent is called as a function. It can be evaluated.
-/

namespace SwitchFleet

open Agent

/-- Every configured interface is up or down, and its state says the same. -/
def Host.Mirrored (h : Host) : Prop :=
  ∀ name, h.Configures name → ∃ status : LineStatus, status ≠ .unknown ∧
    h.admin? name = some status.text ∧
    h.content.field (some .state) (stateKey name) adminField = some status.text

namespace ObjectStore

variable {Spec Status : Type} {s : Schema Spec Status} {t : ObjectStore Spec Status}
  {o : Object Spec Status}

/-- No resource has a status yet. -/
def Fresh (t : ObjectStore Spec Status) : Prop :=
  ∀ key o, t.objects.get? key = some o → o.status = none

theorem Fresh.insert {name : String} (h : t.Fresh) (ho : o.status = none) : (t.insert name o).Fresh := by
  intro key p hp
  rw [get?_insert] at hp
  split at hp
  · cases hp
    exact ho
  · exact h key p hp

theorem Fresh.apply (h : t.Fresh) (ho : o.status = none) : (t.accept s (.apply o)).2.Fresh := by
  intro key p hp
  rw [get?_accept] at hp
  dsimp only [effect] at hp
  split at hp
  · cases hp
    rcases hold : t.objects.get? key with _ | old
    · exact ho
    · dsimp only [superseding, replacing]
      rw [h key old hold, ho]
      rfl
  · exact h key p hp

end ObjectStore

namespace Controller.Fleet

/-! ## Attempts at a switch -/

variable {f f' : Fleet} {c : Content} {switch key : String}

/-- A fleet with this content of its device store, none of whose interfaces was attempted. -/
structure Untouched (c : Content) (f : Fleet) : Prop where
  content : f.host.content = c
  fresh : f.interfaces.Fresh

theorem Untouched.answer {q : Query} (h : Untouched c f)
    (hq : Inspects q ∨ ∃ self, Kind.Routine .switches self q) : Untouched c (answer q f).2 := by
  refine ⟨?_, ?_⟩
  · rw [content_answer (fun address name status hc => ?_) f, h.content]
    subst hc
    rcases hq with hq | ⟨self, hnow | ⟨v, -, hown⟩⟩
    · exact hq rfl
    · cases hnow
    · cases hown
  · rcases world.keepsInterfaces.store_answer managed_interfaceKind.sends q f with
      hstore | ⟨v, rfl, hstore⟩
    · exact (congrArg ObjectStore.Fresh hstore).mpr h.fresh
    · rcases hq with ⟨o, rfl, ho⟩ | ⟨self, hnow | ⟨v, -, hown⟩⟩
      · exact (congrArg ObjectStore.Fresh hstore).mpr (h.fresh.apply ho)
      · cases hnow
      · cases hown

theorem inspects_asked : ∀ a ∈ world.asked f (.switch key),
    Inspects a.1 ∨ ∃ self, Kind.Routine .switches self a.1 := by
  intro a ha
  obtain ⟨o, self, -, -, hroutine | ⟨hinspects, -⟩⟩ := world.mem_asked_switch f ha
  · exact .inr ⟨self, hroutine⟩
  · exact .inl hinspects

theorem Untouched.after (h : Untouched c f) (key : String) :
    Untouched c (world.after f (.switch key)) :=
  world.after_preserves (Untouched c) (fun _ _ hq hf => hf.answer hq) inspects_asked h

theorem Untouched.visited (h : Untouched c f) (key : String) :
    ∀ v ∈ world.visited f (.switch key), Untouched c v.2 :=
  world.visited_preserves (Untouched c) (fun _ _ hq hf => hf.answer hq) inspects_asked h

/-! ## Lists of interfaces -/

/-- What the agent asks its device to list the interfaces in an attempt. -/
def listing (f : Fleet) (turn : Turn) : List (Program.Asked Agent.Query.Answer) :=
  (world.visited f turn).flatMap fun
    | (.call _ .interfaces, g) => g.host.asked Agent.interfaces
    | _ => []

/-- What the agent asks its device to list the interfaces in the last of several attempts in which a
resource is applied. -/
def source (key : String) : Fleet → List Turn → List (Program.Asked Agent.Query.Answer)
  | _, [] => []
  | f, turn :: turns =>
    if (declared key (world.askedAll (world.after f turn) turns)).isEmpty then
      if (declared key (world.asked f turn)).isEmpty then [] else f.listing turn
    else source key (world.after f turn) turns

/-- The specifications that an attempt at a switch makes of the interfaces that its agent lists. -/
inductive Listed (c : Content) (switch key : String)
    (asked : List (Program.Asked Agent.Query.Answer)) : SwitchInterfaceSpec → Prop
  | of (i : Interface) (hname : childName switch i.name = key)
    (hconfigured : c.has Host.configuration (configuredKey i.name) = true)
    (hreport : Host.AdminReport c asked i) :
    Listed c switch key asked ⟨i.name, some ⟨switch⟩, i.admin.observedAdmin⟩

theorem listed_of_declared (h : Untouched c f) (hn : f.switches.Named) {x : SwitchInterfaceSpec}
    (hx : x ∈ declared key (world.asked f (.switch switch))) :
    Listed c switch key (f.listing (.switch switch)) x := by
  obtain ⟨stored, o, self, address, is, i, hi, hturn, hget, hself, hlisted, hname, rfl⟩ :=
    world.reported_of_declared key f (.switch switch) hx
  cases hturn
  obtain rfl : switch = self := Option.some.inj ((hn switch o hget).symm.trans hself)
  -- the device that was listed, which has the content that the fleet started with
  obtain ⟨g, hvisited, hcall⟩ := Program.visited_of_mem_trace hlisted
  have hg : g.host.content = c := (h.visited switch _ hvisited).content
  have hrun := call_ok (Prod.ext hcall rfl)
  obtain ⟨hconfigured, hreport⟩ := Host.interfaces_ok ⟨hrun, rfl⟩ i hi
  unfold Host.Configures at hconfigured
  rw [hg] at hconfigured hreport
  exact .of i hname hconfigured
    (hreport.mono fun a ha => List.mem_flatMap.mpr ⟨(.call address .interfaces, g), hvisited, ha⟩)

/-- **Where specifications come from.** -/
theorem listed_source (h : Untouched c f) (hn : f.switches.Named) (attempts : Nat)
    {x : SwitchInterfaceSpec}
    (hd : declared key (world.askedAll f (List.replicate attempts (.switch switch))) ≠ [])
    (hx : world.spec? key (world.afterAll f (List.replicate attempts (.switch switch))) = some x) :
    Listed c switch key (source key f (List.replicate attempts (.switch switch))) x := by
  induction attempts generalizing f with
  | zero => exact absurd rfl hd
  | succ n ih =>
    rw [List.replicate_succ] at hd hx ⊢
    unfold source
    by_cases hlater : declared key (world.askedAll (world.after f (.switch switch))
        (List.replicate n (.switch switch))) = []
    · have hnow : declared key (world.asked f (.switch switch)) ≠ [] := by
        intro hnone
        refine hd ?_
        change declared key (world.asked f (.switch switch) ++ world.askedAll _ _) = []
        rw [declared_append, hnone, hlater]
        rfl
      rw [if_pos (List.isEmpty_iff.mpr hlater), if_neg (mt List.isEmpty_iff.mp hnow)]
      have hlast := world.remains_afterAll key (world.after f (.switch switch))
        (List.replicate n (.switch switch))
      change world.spec? key (world.afterAll (world.after f (.switch switch)) _) = some x at hx
      rw [hlater, hx] at hlast
      have hremains := world.remains_after key f (.switch switch)
      rw [hlast.of_nil] at hremains
      exact listed_of_declared h hn (hremains.mem hnow)
    · rw [if_neg (mt List.isEmpty_iff.mp hlater)]
      exact ih (h.after switch) (world.named_switches hn _) hlater hx

theorem ofField_text {status : LineStatus} (hknown : status ≠ .unknown) :
    LineStatus.ofField status.text = status := by
  cases status with
  | up => rfl
  | down => rfl
  | unknown => exact absurd rfl hknown

theorem lower_observedAdmin {status : LineStatus} (hknown : status ≠ .unknown) :
    Text.lower status.observedAdmin.name = status.text := by
  cases status with
  | up => decide
  | down => decide
  | unknown => exact absurd rfl hknown

/-- What is wanted of a listed interface is what it is like, or its state could not be read. -/
theorem Listed.wanted {h : Host} {asked : List (Program.Asked Agent.Query.Answer)}
    {x : SwitchInterfaceSpec} (hx : Listed h.content switch key asked x) (hm : h.Mirrored) :
    childName switch x.handle = key ∧
      (h.admin? x.handle = some "up" ∨ h.admin? x.handle = some "down") ∧
      (asked.any (Host.isRead x.handle) = true ∧
          h.admin? x.handle = some (Text.lower x.adminState.name) ∨
        asked.any (Host.isUnread x.handle) = true ∧ x.adminState = .down) := by
  obtain ⟨i, hname, hconfigured, hreport⟩ := hx
  obtain ⟨status, hknown, hadmin, hstate⟩ := hm i.name hconfigured
  refine ⟨hname, ?_, ?_⟩
  · rw [hadmin]
    cases status with
    | up => exact .inl rfl
    | down => exact .inr rfl
    | unknown => exact absurd rfl hknown
  · cases hreport with
    | read hr ha =>
      refine .inl ⟨hr, ?_⟩
      rw [hadmin, ha, hstate, Option.getD_some, ofField_text hknown, lower_observedAdmin hknown]
    | unread hr ha =>
      rw [ha]
      exact .inr ⟨hr, rfl⟩

/-! ## Adoption -/

section

variable (hn : f.switches.Named) (hnew : f.interfaces.objects = []) (switch : String)
  (attempts : Nat)

include hnew

theorem spec?_of_new (key : String) : world.spec? key f = none := by
  change (f.interfaces.objects.get? key).map _ = none
  rw [hnew]
  rfl

theorem untouched_of_new : Untouched f.host.content f :=
  ⟨rfl, fun key o hget => by rw [hnew] at hget; cases hget⟩

theorem untouched_afterAll : Untouched f.host.content
    (world.afterAll f (List.replicate attempts (.switch switch))) :=
  world.afterAll_preserves _ (fun turn hturn f' h => by
    obtain rfl := List.eq_of_mem_replicate hturn
    exact h.after switch) (untouched_of_new hnew)

include hn

theorem listed_afterAll {x : SwitchInterfaceSpec}
    (hx : (world.afterAll f (List.replicate attempts (.switch switch))).interfaces.spec? key =
      some x) :
    Listed f.host.content switch key (source key f (List.replicate attempts (.switch switch))) x := by
  refine listed_source (untouched_of_new hnew) hn attempts (fun hnone => ?_) hx
  have hremains := world.remains_afterAll key f (List.replicate attempts (.switch switch))
  rw [hnone, spec?_of_new hnew, show world.spec? key _ = some x from hx] at hremains
  cases hremains.of_nil

theorem separate_afterAll (hm : f.host.Mirrored) :
    Separate (world.afterAll f (List.replicate attempts (.switch switch))) := by
  have hcontent := (untouched_afterAll hnew switch attempts).content
  refine ⟨?_, fun key key' x x' hx hx' he => ?_, fun key x hx => ?_⟩
  · have hstart : f.interfaces.Named := fun key o hget => by rw [hnew] at hget; cases hget
    exact world.afterAll_preserves (fun f => f.interfaces.Named)
      (fun turn _ f h => world.named_interfaces h turn) hstart
  · obtain ⟨rfl, -, -⟩ := (listed_afterAll hn hnew switch attempts hx).wanted hm
    obtain ⟨rfl, -, -⟩ := (listed_afterAll hn hnew switch attempts hx').wanted hm
    rw [he]
  · obtain ⟨-, hadmin, -⟩ := (listed_afterAll hn hnew switch attempts hx).wanted hm
    unfold Host.admin? at hadmin ⊢
    rw [hcontent]
    exact hadmin.elim (fun h => ⟨_, h⟩) fun h => ⟨_, h⟩

end

/-- **Switches that are adopted.** -/
theorem adopted (hm : f.host.Mirrored) (hn : f.switches.Named) (hnew : f.interfaces.objects = [])
    (switch : String) (attempts : Nat) (keys : List String) (name : String) :
    let turns := List.replicate attempts (.switch switch)
    let final := world.afterAll f (turns ++ keys.map .interface)
    let asked := source (childName switch name) f turns
    (final.host.admin? name = f.host.admin? name ∨
      f.host.admin? name = some "up" ∧ final.host.admin? name = some "down" ∧
        asked.any (Host.isUnread name) = true) ∧
    ∀ o, final.interfaces.objects.get? (childName switch name) = some o → o.spec.handle = name →
      interfaceKind.stateOf o = some .ready → asked.any (Host.isRead name) = false →
        final.host.admin? name = some "down" := by
  intro turns final asked
  have hdown : Text.lower LinkState.down.name = "down" := by decide
  have hsame : (world.afterAll f turns).host.admin? name = f.host.admin? name := by
    unfold Host.admin?
    rw [(untouched_afterAll hnew switch attempts).content]
  have hs : Settling (world.afterAll f turns) final := by
    have hfinal : final = world.afterAll (world.afterAll f turns) (keys.map .interface) :=
      List.foldl_append
    rw [hfinal]
    refine settling_afterAll (separate_afterAll hn hnew switch attempts hm) (fun key o hget => ?_) keys
    unfold Kind.stateOf
    rw [(untouched_afterAll hnew switch attempts).fresh key o hget]
    nofun
  refine ⟨?_, fun o hget hhandle hready hunread => ?_⟩
  · rcases hs.admin name with hkept | ⟨key, x, hx, rfl, hset⟩
    · exact .inl (hkept.trans hsame)
    · obtain ⟨rfl, hadmin, ⟨-, hwanted⟩ | ⟨hunread, hwanted⟩⟩ :=
        (listed_afterAll hn hnew switch attempts hx).wanted hm
      · exact .inl (hset.trans hwanted.symm)
      · rw [hwanted, hdown] at hset
        rcases hadmin with hup | hsame
        · exact .inr ⟨hup, hset, hunread⟩
        · exact .inl (hset.trans hsame.symm)
  · have hx := hs.specs _ _ (spec?_of_get? hget)
    obtain ⟨-, -, ⟨hread, -⟩ | ⟨-, hwanted⟩⟩ :=
      (listed_afterAll hn hnew switch attempts hx).wanted hm
    · rw [hhandle] at hread
      cases hunread.symm.trans hread
    · have hset := hs.ready _ o hget hready
      rwa [hhandle, hwanted, hdown] at hset

/-! ## Without the protocol -/

/-- The answer to a question, where agents are called without their protocol. -/
def plain : (q : Query) → Fleet → q.Answer × Fleet
  | .call _ op, f => ((Client.plainly op f.host).1, { f with host := (Client.plainly op f.host).2 })
  | q, f => answer q f

theorem answer_eq_plain : answer = plain := by
  funext q f
  cases q with
  | call address op =>
    rw [answer_call, Client.perform_eq_plainly]
    rfl
  | _ => rfl

/-- The same world, where agents are called without their protocol. -/
def plainWorld : World Fleet where
  answer := plain
  switches := Fleet.switches
  interfaces := Fleet.interfaces
  keepsSwitches := answer_eq_plain ▸ world.keepsSwitches
  keepsInterfaces := answer_eq_plain ▸ world.keepsInterfaces

theorem world_eq_plainWorld : world = plainWorld := by
  unfold world plainWorld
  congr 1
  exact answer_eq_plain

/-! ## A switch with one interface -/

/-- The store of a device with one interface, which is up. -/
def litContent : Content :=
  ((Content.empty.setFields Host.configuration identityKey
      [("mac", "aa:bb:cc:00:00:01"), ("hwsku", "sku"), ("sonic_os_version", "4.2"),
        ("asic_type", "asic")]).setFields
    Host.configuration (configuredKey "Ethernet0") [(adminField, "up")]).setFields
    (some .state) (stateKey "Ethernet0") [(adminField, "up"), (operationalField, "up")]

/-- A new switch with this device, which waits for its first comparison. -/
def litFleet (turns : Nat → SwitchFleet.Turn) : Fleet where
  switches := ObjectStore.empty.insert "leaf"
    { Cluster.readySwitch with status := some { SwitchStatus.empty with state := some .pending } }
  interfaces := .empty
  host := { Host.single with content := litContent, turns }
  time := "2026-01-01T00:00:00Z"

/-- Calls of the store one of which fails: the read of the state of the interface when the interfaces are
listed. -/
def unreadOnce (n : Nat) : SwitchFleet.Turn :=
  if n = 5 then .failing (.unavailable "timed out") else .smooth

theorem configured_litContent {key : String}
    (hk : litContent.has Host.configuration key = true) :
    key = identityKey ∨ key = configuredKey "Ethernet0" := by
  have htable : litContent.table Host.configuration =
      [(identityKey, [("asic_type", "asic"), ("hwsku", "sku"), ("mac", "aa:bb:cc:00:00:01"),
        ("sonic_os_version", "4.2")]), (configuredKey "Ethernet0", [(adminField, "up")])] := by
    decide +kernel
  refine Decidable.byContradiction fun hne => ?_
  obtain ⟨hidentity, hconfigured⟩ := not_or.mp hne
  unfold Content.has Keyed.has at hk
  rw [htable, Keyed.get?, if_neg hidentity, Keyed.get?, if_neg hconfigured] at hk
  cases hk

theorem mirrored_litFleet (turns : Nat → SwitchFleet.Turn) : (litFleet turns).host.Mirrored := by
  intro name hc
  have hname : name = "Ethernet0" := by
    rcases configured_litContent hc with he | he
    · have hhead := congrArg (·.toList.head?) he
      simp [configuredKey, configuredStart, identityKey] at hhead
    · exact (String.append_right_inj _).mp he
  subst hname
  have hadmin : litContent.field Host.configuration (configuredKey "Ethernet0") adminField =
      some LineStatus.up.text := by decide +kernel
  have hstate : litContent.field (some .state) (stateKey "Ethernet0") adminField =
      some LineStatus.up.text := by decide +kernel
  exact ⟨.up, nofun, hadmin, hstate⟩

theorem named_litFleet (turns : Nat → SwitchFleet.Turn) : (litFleet turns).switches.Named :=
  ObjectStore.Named.insert (fun _ _ hget => nomatch hget) rfl

/-- Attempts at the switch and then at its interface. -/
def litTurns : List Turn :=
  List.replicate 1 (.switch "leaf") ++ (List.replicate 3 "leaf-ethernet0").map .interface

/-- The general theorem at a device whose store does not fail: the interface is still up. -/
theorem adopted_up :
    (litFleet fun _ => .smooth).host.Mirrored ∧ (litFleet fun _ => .smooth).switches.Named ∧
      (litFleet fun _ => .smooth).interfaces.objects = [] ∧
      (world.afterAll (litFleet fun _ => .smooth) litTurns).host.admin? "Ethernet0" = some "up" := by
  have hm := mirrored_litFleet fun _ => .smooth
  have hn := named_litFleet fun _ => .smooth
  have hup : (litFleet fun _ => .smooth).host.admin? "Ethernet0" = some "up" := by decide +kernel
  have hread : (source (childName "leaf" "Ethernet0") (litFleet fun _ => .smooth)
      (List.replicate 1 (.switch "leaf"))).any (Host.isUnread "Ethernet0") = false := by
    unfold source listing
    rw [world_eq_plainWorld]
    decide +kernel
  refine ⟨hm, hn, rfl, ?_⟩
  rcases (adopted hm hn rfl "leaf" 1 (List.replicate 3 "leaf-ethernet0") "Ethernet0").1 with
    hkept | ⟨-, -, hunread⟩
  · exact hkept.trans hup
  · cases hread.symm.trans hunread

/-- **An admin status that is lost.** One read of the state fails, when the interfaces are listed. The switch
and its interface become ready all the same, and the interface is down after that. -/
theorem adopted_down :
    (litFleet unreadOnce).host.Mirrored ∧ (litFleet unreadOnce).switches.Named ∧
      (litFleet unreadOnce).interfaces.objects = [] ∧
      (litFleet unreadOnce).host.admin? "Ethernet0" = some "up" ∧
      let final := world.afterAll (litFleet unreadOnce) litTurns
      ((final.switches.objects.get? "leaf").bind switchKind.stateOf,
          (final.interfaces.objects.get? "leaf-ethernet0").bind interfaceKind.stateOf,
          final.host.admin? "Ethernet0") = (some .ready, some .ready, some "down") := by
  refine ⟨mirrored_litFleet _, named_litFleet _, rfl, by decide +kernel, ?_⟩
  rw [world_eq_plainWorld]
  decide +kernel

end Controller.Fleet

end SwitchFleet
