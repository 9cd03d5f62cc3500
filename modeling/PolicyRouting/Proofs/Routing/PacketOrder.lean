import PolicyRouting.Proofs.Routing.Contribution
import PolicyRouting.Proofs.Routing.Delivery

/-!
# Packets in any order

A run over a list of packets adds up what each packet adds to a blank engine,
so without random choices the order of the packets does not show: not in the
counters, not in the rules that are written and owned, not in the addresses
that are watched, nor in the frames that are sent.

Only the content of a rule could tell which packet came last.  With the
switches as they are delivered it cannot: two packets that write a rule under
one id have the same selector, hence the same ends and the same policies, and
they write the same rules.
-/

namespace PolicyRouting

/-- Frames with the same destination IP have the same destination MAC. -/
def DestinationsAgree (frames : List Frame) : Prop :=
  ∀ frame ∈ frames, ∀ other ∈ frames, ∀ header ∈ frame.ipv4?, ∀ header' ∈ other.ipv4?,
    header'.dst = header.dst → other.dst = frame.dst

instance (frames : List Frame) : Decidable (DestinationsAgree frames) := by
  unfold DestinationsAgree
  infer_instance

/-- Where the parts agree on what was written last, it does not matter which one came last. -/
theorem lastWrite?_flatMap_iff {α : Type} {part : α → List Write} {parts : List α} {id : UInt64}
    (agree : ∀ a ∈ parts, ∀ b ∈ parts, ∀ hop hop', lastWrite? (part a) id = some hop →
      lastWrite? (part b) id = some hop' → hop' = hop) (hop : Hop) :
    lastWrite? (parts.flatMap part) id = some hop ↔
      ∃ a ∈ parts, lastWrite? (part a) id = some hop := by
  induction parts generalizing hop with
  | nil => simp [lastWrite?]
  | cons first rest ih =>
      have later := ih fun a ha b hb =>
        agree a (List.mem_cons_of_mem _ ha) b (List.mem_cons_of_mem _ hb)
      rw [List.flatMap_cons, lastWrite?_append, Option.or_eq_some_iff, List.exists_mem_cons_iff]
      constructor
      · rintro (found | ⟨-, found⟩)
        · exact .inr ((later hop).1 found)
        · exact .inl found
      · rintro (found | found)
        · cases hrest : lastWrite? (rest.flatMap part) id with
          | none => exact .inr ⟨rfl, found⟩
          | some last =>
              obtain ⟨b, hb, hlast⟩ := (later last).1 hrest
              obtain rfl : last = hop := agree first List.mem_cons_self b
                (List.mem_cons_of_mem _ hb) hop last found hlast
              exact .inl rfl
        · exact .inl ((later hop).2 found)

namespace Engine

variable {e : Engine} {packets packets' : List (ConnectPoint × Bytes)}

/-! ## What a run adds up to -/

/-- What a packet leaves of an engine that has done nothing before. -/
def share (e : Engine) (packet : ConnectPoint × Bytes) : Engine :=
  (e.blank.process packet.1 packet.2).2

def writesOfAll (e : Engine) (packets : List (ConnectPoint × Bytes)) : List Write :=
  packets.flatMap fun packet => e.writesOf packet.2

theorem Steady.of_blank {e' : Engine} (steady : Steady e) (same : e'.blank = e.blank) :
    Steady e' := by
  change Steady e'.blank
  rw [same]
  exact steady

/-- The engine after the packets is the sum of what it was and of what they add. -/
structure Sums (e : Engine) (packets : List (ConnectPoint × Bytes)) (after : Engine) : Prop where
  blank_eq : after.blank = e.blank
  counters : after.counters =
    packets.foldl (fun counters packet => counters + (e.share packet).counters) e.counters
  choices : after.scene.chooser.counts = packets.foldl
    (fun counts packet => counts + (e.share packet).scene.chooser.counts) e.scene.chooser.counts
  watched : ∀ ip, ip ∈ after.scene.directory.watched ↔ ip ∈ e.scene.directory.watched ∨
    ∃ packet ∈ packets, ip ∈ (e.share packet).scene.directory.watched
  sent : after.outbox.sent =
    e.outbox.sent ++ packets.flatMap fun packet => (e.share packet).outbox.sent
  register : after.scene.register =
    e.scene.register.installAll ((e.writesOfAll packets).map Write.install)

theorem sums_run (filed : e.scene.register.Filed) (steady : Steady e)
    (packets : List (ConnectPoint × Bytes)) : Sums e packets (e.run packets) := by
  induction packets generalizing e with
  | nil => exact ⟨rfl, rfl, rfl, by simp [run], (List.append_nil _).symm, rfl⟩
  | cons packet packets ih =>
      let next := (e.process packet.1 packet.2).2
      have adds : Adds e next (e.share packet) :=
        (uniform_process (steady.chanceFree packet.2) packet.1 e rfl).2
      -- the next engine is of the same ground, so the other packets add the same to it
      have same : next.blank = e.blank := adds.blank_eq
      have shares : next.share = e.share := by
        funext other
        rw [share, same, share]
      have writes : next.writesOfAll packets = e.writesOfAll packets :=
        List.flatMap_congr fun other _ => writesOf_eq (steady.chanceFree other.2) same
      have register := (process_spec filed packet.1 packet.2).2.2.1
      have rest := ih (e := next) (filed_perform filed (.process packet.1 packet.2))
        (steady.of_blank same)
      refine ⟨rest.blank_eq.trans same, ?_, ?_, fun ip => ?_, ?_, ?_⟩
      · rw [List.foldl_cons, ← adds.counters, ← shares]
        exact rest.counters
      · rw [List.foldl_cons, ← adds.scene.choices, ← shares]
        exact rest.choices
      · rw [List.exists_mem_cons_iff, ← or_assoc, ← adds.scene.watched, ← shares]
        exact rest.watched ip
      · rw [List.flatMap_cons, ← List.append_assoc, ← adds.sent, ← shares]
        exact rest.sent
      · rw [writesOfAll, List.flatMap_cons, List.map_append, Register.installAll_append,
          ← register, ← writesOfAll, ← writes]
        exact rest.register

theorem packets_routeAll (e : Engine) (frame : Frame) (policies : List Policy) :
    (e.routeAll frame policies).2.counters.packets = e.counters.packets := by
  induction policies generalizing e with
  | nil => rfl
  | cons policy rest ih =>
      simp only [routeAll]
      rw [ih]
      cases (e.scene.route policy.action policy frame).1 <;> rfl

theorem packets_answerArp (e : Engine) (receiver : ConnectPoint) (frame : Frame) (message : Arp) :
    (e.answerArp receiver frame message).2.counters.packets = e.counters.packets := by
  unfold answerArp
  split
  · split
    · split <;> rfl
    · rfl
  · rfl

theorem packets_classify (e : Engine) (receiver : ConnectPoint) (frame : Frame) :
    (e.classify receiver frame).2.counters.packets = e.counters.packets := by
  unfold classify
  split
  · rfl
  split
  · split
    · rfl
    · exact packets_answerArp e receiver frame _
  split
  · rfl
  split
  · simp only [dispatch]
    split
    · rfl
    · exact packets_routeAll e frame _
  · rfl

theorem packets_process (e : Engine) (receiver : ConnectPoint) (data : Bytes) :
    (e.process receiver data).2.counters.packets = e.counters.packets + 1 := by
  unfold process
  cases Frame.ofBytes? data with
  | none => rfl
  | some frame => exact packets_classify _ receiver frame

theorem packets_run (e : Engine) (packets : List (ConnectPoint × Bytes)) :
    (e.run packets).counters.packets = e.counters.packets + packets.length := by
  induction packets generalizing e with
  | nil => rfl
  | cons packet packets ih =>
      have rest := ih (e.process packet.1 packet.2).2
      rw [packets_process] at rest
      rw [List.length_cons, Nat.add_comm packets.length, ← Nat.add_assoc]
      exact rest

/-! ## The order does not show -/

section Perm

variable {after after' : Engine} (sums : Sums e packets after) (sums' : Sums e packets' after')
  (perm : packets.Perm packets')

theorem current_of_mem_writesOfAll (filed : e.scene.register.Filed)
    (packets : List (ConnectPoint × Bytes)) :
    ∀ install ∈ (e.writesOfAll packets).map Write.install,
      e.scene.register.current.contains install.policy = true := by
  intro install h
  obtain ⟨write, hwrite, rfl⟩ := List.mem_map.1 h
  obtain ⟨packet, -, hmem⟩ := List.mem_flatMap.1 hwrite
  exact current_of_mem_writesOf filed hmem

include perm

theorem perm_writesOfAll : (e.writesOfAll packets).Perm (e.writesOfAll packets') :=
  perm.flatMap_right _

include sums sums'

theorem counters_perm : after'.counters = after.counters := by
  rw [sums.counters, sums'.counters]
  exact (perm.foldl_eq' (fun _ _ _ _ counters => Counters.add_right_comm counters _ _) _).symm

theorem choices_perm : after'.scene.chooser.counts = after.scene.chooser.counts := by
  rw [sums.choices, sums'.choices]
  exact (perm.foldl_eq' (fun _ _ _ _ counts => ChoiceCounts.add_right_comm counts _ _) _).symm

theorem watched_perm (ip : Ipv4) :
    ip ∈ after'.scene.directory.watched ↔ ip ∈ after.scene.directory.watched := by
  simp only [sums.watched, sums'.watched, perm.mem_iff]

theorem sent_perm : after'.outbox.sent.Perm after.outbox.sent := by
  rw [sums.sent, sums'.sent]
  exact ((perm.flatMap_right _).append_left _).symm

theorem held_ids_perm (filed : e.scene.register.Filed) (ruleId : UInt64) :
    after'.scene.register.switches.contains ruleId = true ↔
      after.scene.register.switches.contains ruleId = true := by
  rw [sums.register, sums'.register,
    Register.contains_installAll_iff (current_of_mem_writesOfAll filed _),
    Register.contains_installAll_iff (current_of_mem_writesOfAll filed _)]
  simp only [((perm_writesOfAll perm).map Write.install).mem_iff]

theorem owned_ids_perm (filed : e.scene.register.Filed) (id : PolicyId) (ruleId : UInt64) :
    ruleId ∈ (after'.scene.register.rulesOf id).map Rule.id ↔
      ruleId ∈ (after.scene.register.rulesOf id).map Rule.id := by
  rw [sums.register, sums'.register,
    Register.mem_rulesOf_installAll_iff (current_of_mem_writesOfAll filed _),
    Register.mem_rulesOf_installAll_iff (current_of_mem_writesOfAll filed _)]
  simp only [((perm_writesOfAll perm).map Write.install).mem_iff]

end Perm

/-! ## The content of the rules -/

def framesOf (packets : List (ConnectPoint × Bytes)) : List Frame :=
  packets.filterMap fun packet => Frame.ofBytes? packet.2

theorem regionsOf?_eq {frame other : Frame} (same : SameTraffic frame other) {src dst : String}
    {src' dst' : String} (h : e.regionsOf? frame = some (src, dst))
    (h' : e.regionsOf? other = some (src', dst')) : src' = src ∧ dst' = dst := by
  obtain ⟨header, header', hheader, hheader', ipSrc, ipDst, -, -⟩ := same.headers
  obtain ⟨-, again, hagain, hsrc, hdst⟩ := regionsOf?_eq_some_iff.1 h
  obtain ⟨-, again', hagain', hsrc', hdst'⟩ := regionsOf?_eq_some_iff.1 h'
  obtain rfl : header = again := Option.some.inj (hheader.symm.trans hagain)
  obtain rfl : header' = again' := Option.some.inj (hheader'.symm.trans hagain')
  rw [ipSrc] at hsrc'
  rw [ipDst] at hdst'
  exact ⟨Option.some.inj (hsrc'.symm.trans hsrc), Option.some.inj (hdst'.symm.trans hdst)⟩

section Plain

variable (steady : Steady e) (plain : e.scene.settings.Plain)
  (sources : SourcesAgree (framesOf packets)) (destinations : DestinationsAgree (framesOf packets))
  (apart : NoCollision (e.writesOfAll packets))

include steady plain sources destinations apart

theorem writesOf_eq_of_shared {packet other : ConnectPoint × Bytes} (hpacket : packet ∈ packets)
    (hother : other ∈ packets) {write write' : Write} (hwrite : write ∈ e.writesOf packet.2)
    (hwrite' : write' ∈ e.writesOf other.2) (sameId : write.hop.rule.id = write'.hop.rule.id) :
    e.writesOf other.2 = e.writesOf packet.2 := by
  have content : write.hop.rule.SameContent write'.hop.rule :=
    apart write (List.mem_flatMap.2 ⟨packet, hpacket, hwrite⟩) write'
      (List.mem_flatMap.2 ⟨other, hother, hwrite'⟩) sameId
  obtain ⟨frame, src, dst, policy, ends, hframe, hregions, -, -, governs, written⟩ :=
    governs_of_mem_writesOf hwrite
  obtain ⟨frame', src', dst', policy', ends', hframe', hregions', -, -, governs', written'⟩ :=
    governs_of_mem_writesOf hwrite'
  obtain ⟨carrier, -, -, pinned⟩ := Scene.Plain.pinned?_of_ends plain governs.ends
  obtain ⟨carrier', -, -, pinned'⟩ := Scene.Plain.pinned?_of_ends plain governs'.ends
  have selectors : ends'.selector = ends.selector := by
    rw [← written.selector, ← written'.selector, content.selector]
  rw [selectors] at pinned'
  obtain ⟨type, header, header', hheader, hheader', ipSrc, ipDst, protocol, transport⟩ :=
    headers_of_pinned? pinned pinned'
  have taken : frame ∈ framesOf packets := List.mem_filterMap.2 ⟨packet, hpacket, hframe⟩
  have taken' : frame' ∈ framesOf packets := List.mem_filterMap.2 ⟨other, hother, hframe'⟩
  have same : SameTraffic frame frame' :=
    ⟨sources frame taken frame' taken' header hheader header' hheader' ipSrc,
      destinations frame taken frame' taken' header hheader header' hheader' ipDst, type,
      header, header', hheader, hheader', ipSrc, ipDst, protocol, transport⟩
  obtain ⟨rfl, rfl⟩ := regionsOf?_eq same hregions hregions'
  have fixed := fixed_of_mem_policiesFor steady src' dst'
  rw [writesOf_of_frame hframe hregions, writesOf_of_frame hframe' hregions',
    Scene.writes_eq_flatMap fixed, Scene.writes_eq_flatMap fixed]
  exact List.flatMap_congr fun policy _ => by rw [same.hops_eq plain]

theorem held_perm {after after' : Engine} (sums : Sums e packets after)
    (sums' : Sums e packets' after') (perm : packets.Perm packets')
    (filed : e.scene.register.Filed) (ruleId : UInt64) :
    after'.scene.register.switches.rules.get? ruleId =
      after.scene.register.switches.rules.get? ruleId := by
  have agree : ∀ packet ∈ packets, ∀ other ∈ packets, ∀ hop hop',
      lastWrite? (e.writesOf packet.2) ruleId = some hop →
        lastWrite? (e.writesOf other.2) ruleId = some hop' → hop' = hop := by
    intro packet hpacket other hother hop hop' hlast hlast'
    obtain ⟨hid, write, hwrite, rfl⟩ := mem_of_lastWrite? hlast
    obtain ⟨hid', write', hwrite', rfl⟩ := mem_of_lastWrite? hlast'
    have same := writesOf_eq_of_shared steady plain sources destinations apart hpacket hother
      hwrite hwrite' (hid.trans hid'.symm)
    rw [same, hlast] at hlast'
    exact (Option.some.inj hlast').symm
  have last : lastWrite? (e.writesOfAll packets') ruleId =
      lastWrite? (e.writesOfAll packets) ruleId := by
    refine Option.ext fun hop => ?_
    rw [writesOfAll, writesOfAll, lastWrite?_flatMap_iff agree, lastWrite?_flatMap_iff]
    · simp only [perm.mem_iff]
    · simpa only [perm.mem_iff] using agree
  rw [sums.register, sums'.register,
    Register.get?_installAll (current_of_mem_writesOfAll filed _),
    Register.get?_installAll (current_of_mem_writesOfAll filed _), lastInstall?_map_install,
    lastInstall?_map_install, last]

end Plain

/--
Without random choices a list of packets and any permutation of it are processed to the last packet
and leave the same: rule ids in the devices, rule ids of every policy, watched addresses, sent
frames (in some order) and counters.  With the switches as they are delivered, addresses that go
with one MAC each, and a digest that tells the written rules apart, the devices hold the same rules.
-/
theorem run_perm (filed : e.scene.register.Filed) (steady : Steady e)
    (perm : packets.Perm packets') :
    let after := e.run packets
    let after' := e.run packets'
    after.counters.packets = e.counters.packets + packets.length ∧
    after'.counters = after.counters ∧
    after'.scene.chooser.counts = after.scene.chooser.counts ∧
    (∀ ruleId, after'.scene.register.switches.contains ruleId = true ↔
      after.scene.register.switches.contains ruleId = true) ∧
    (∀ id ruleId, ruleId ∈ (after'.scene.register.rulesOf id).map Rule.id ↔
      ruleId ∈ (after.scene.register.rulesOf id).map Rule.id) ∧
    (∀ ip, ip ∈ after'.scene.directory.watched ↔ ip ∈ after.scene.directory.watched) ∧
    after'.outbox.sent.Perm after.outbox.sent ∧
    (e.scene.settings.Plain → SourcesAgree (framesOf packets) →
      DestinationsAgree (framesOf packets) → NoCollision (e.writesOfAll packets) →
        ∀ ruleId, after'.scene.register.switches.rules.get? ruleId =
          after.scene.register.switches.rules.get? ruleId) := by
  intro after after'
  have sums := sums_run filed steady packets
  have sums' := sums_run filed steady packets'
  exact ⟨packets_run e packets, counters_perm sums sums' perm, choices_perm sums sums' perm,
    held_ids_perm sums sums' perm filed, owned_ids_perm sums sums' perm filed,
    watched_perm sums sums' perm, sent_perm sums sums' perm,
    fun plain sources destinations apart =>
      held_perm steady plain sources destinations apart sums sums' perm filed⟩

def sharedEngine : Engine :=
  (fresh {} { lineRegions with gatewayMac := some ⟨2, 0, 0, 0, 0, 0xff⟩ } lineDirectory
    scattered).performAll (lineLinks ++ [
      .create ((eastboundRequest "50").build 1 (.ofEpochNanos 0)),
      .create ((eastboundRequest "50").build 2 (.ofEpochNanos 0))])

def mixedPackets : List (ConnectPoint × Bytes) :=
  let envelope : Envelope := .between westHost.id.mac ⟨2, 0, 0, 0, 0, 0xff⟩
  let request : Arp :=
    ⟨Arp.requestCode, westHost.id.mac, ⟨10, 0, 0, 1⟩, ⟨0, 0, 0, 0, 0, 0⟩, ⟨10, 0, 0, 254⟩⟩
  [(⟨"a", 1⟩, eastboundPacket),
    (⟨"a", 1⟩, (envelope.withDscp 46).tcp ⟨10, 0, 0, 1⟩ ⟨10, 0, 1, 1⟩ 40000 80),
    (⟨"a", 1⟩, envelope.arp request),
    (⟨"a", 1⟩, envelope.tcp ⟨10, 0, 0, 1⟩ ⟨10, 0, 1, 9⟩ 40000 80)]

theorem mixedPackets_backwards :
    let after := sharedEngine.run mixedPackets
    let after' := sharedEngine.run mixedPackets.reverse
    after.counters.packets = 4 ∧ after.counters.rulesInstalled = 12 ∧
    after.outbox.sent.length = 1 ∧ after.scene.directory.watched = [⟨10, 0, 1, 9⟩] ∧
    after.scene.register.switches.rules.size = 3 ∧
    after'.counters = after.counters ∧ after'.outbox.sent.Perm after.outbox.sent ∧
    ∀ ruleId, after'.scene.register.switches.rules.get? ruleId =
      after.scene.register.switches.rules.get? ruleId := by
  intro after after'
  have filed : sharedEngine.scene.register.Filed := filed_performAll (filed_fresh _ _ _ _) _
  have steady : Steady sharedEngine := by
    unfold Steady
    decide +kernel
  have plain : sharedEngine.scene.settings.Plain := ⟨rfl, rfl, rfl, rfl, rfl, rfl, rfl⟩
  have sources : SourcesAgree (framesOf mixedPackets) := by decide +kernel
  have destinations : DestinationsAgree (framesOf mixedPackets) := by decide +kernel
  have apart : NoCollision (sharedEngine.writesOfAll mixedPackets) := by decide +kernel
  have seen : after.counters.packets = 4 ∧ after.counters.rulesInstalled = 12 ∧
      after.outbox.sent.length = 1 ∧ after.scene.directory.watched = [⟨10, 0, 1, 9⟩] ∧
      after.scene.register.switches.rules.size = 3 := by decide +kernel
  obtain ⟨-, counters, -, -, -, -, sent, held⟩ :=
    run_perm filed steady (List.reverse_perm mixedPackets).symm
  obtain ⟨packets, rules, replies, watched, size⟩ := seen
  exact ⟨packets, rules, replies, watched, size, counters, sent,
    held plain sources destinations apart⟩

end Engine

end PolicyRouting
