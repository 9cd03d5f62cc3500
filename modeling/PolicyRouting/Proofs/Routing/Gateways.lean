import PolicyRouting.Proofs.Frame.RoundTrip
import PolicyRouting.Proofs.Routing.Accounting
import PolicyRouting.Proofs.Routing.RegionLookup

/-!
# How gateways answer

A packet asks for a gateway if it reads as an ARP request whose target is the
gateway address of some prefix.  With a MAC address for the gateways such a
packet is answered, and no other packet is.  The answer leaves where the packet
came in and reads as the reply: both sides change places, and the tag stays,
since a tag that was read has twelve bits.  An ARP frame leaves nothing behind
in the engine but the answer and its counts.
-/

namespace PolicyRouting

namespace Frame

variable {data : Bytes} {frame : Frame} {message : Arp}

theorem arp?_eq_some_iff : frame.arp? = some message ↔ frame.payload = .arp message := by
  unfold arp?
  cases frame.payload <;> simp

theorem etherType_of_arp? (read : ofBytes? data = some frame) (h : frame.arp? = some message) :
    frame.etherType = EtherType.arp := by
  have payload := (normal_of_ofBytes? read).payload
  rw [arp?_eq_some_iff.1 h] at payload
  exact payload

theorem not_isControl_of_arp (h : frame.etherType = EtherType.arp) : ¬ frame.isControl = true := by
  rw [isControl, h]
  decide

end Frame

theorem Arp.replyFrame_eq (message : Arp) (mac : Mac) (vlan : Option UInt16) :
    message.replyFrame mac vlan =
      (Envelope.marked mac message.senderMac vlan none).arp (message.answer mac) := rfl

theorem Frame.ofBytes?_replyFrame {data : Bytes} {frame : Frame} (read : ofBytes? data = some frame)
    (message : Arp) (mac : Mac) :
    ofBytes? (message.replyFrame mac frame.vlan) =
      some ⟨message.senderMac, mac, frame.vlan, EtherType.arp, .arp (message.answer mac)⟩ := by
  rw [Arp.replyFrame_eq, Envelope.ofBytes?_arp, Envelope.frame_marked,
    (normal_of_ofBytes? read).vlan]

/-- The bytes are a frame with a request for the address of a gateway. -/
structure Regions.Asked (regions : Regions) (data : Bytes) (frame : Frame) (message : Arp) :
    Prop where
  read : Frame.ofBytes? data = some frame
  decoded : frame.arp? = some message
  request : message.opcode = Arp.requestCode
  gateway : ∃ entry ∈ regions.locals, entry.gateway = .v4 message.targetIp

namespace Engine

variable {e : Engine} {receiver : ConnectPoint} {data : Bytes} {frame : Frame} {message : Arp}

def reply? (e : Engine) (frame : Frame) (message : Arp) : Option Bytes :=
  if message.isRequest ∧ e.regions.isGateway (.v4 message.targetIp) then
    e.regions.gatewayMac.map fun mac => message.replyFrame mac frame.vlan
  else none

def replyTo? (e : Engine) (data : Bytes) : Option Bytes := do
  let frame ← Frame.ofBytes? data
  let message ← frame.arp?
  e.reply? frame message

theorem replyTo?_reload_eq_some_iff {regions : Regions} {bytes : Bytes} :
    (e.reload regions).replyTo? data = some bytes ↔
      ∃ frame message mac, regions.Asked data frame message ∧ regions.gatewayMac = some mac ∧
        message.replyFrame mac frame.vlan = bytes := by
  simp only [replyTo?, reply?, reload, Option.bind_eq_bind, Option.bind_eq_some_iff,
    Option.ite_none_right_eq_some, Option.map_eq_some_iff, Regions.gatewayMac_table,
    Regions.isGateway_table_iff, Arp.isRequest, decide_eq_true_eq]
  constructor
  · rintro ⟨frame, read, message, decoded, ⟨request, gateway⟩, mac, hmac, reply⟩
    exact ⟨frame, message, mac, ⟨read, decoded, request, gateway⟩, hmac, reply⟩
  · rintro ⟨frame, message, mac, ⟨read, decoded, request, gateway⟩, hmac, reply⟩
    exact ⟨frame, read, message, decoded, ⟨request, gateway⟩, mac, hmac, reply⟩

/-! ## What is sent -/

theorem sent_answerArp (e : Engine) (receiver : ConnectPoint) (frame : Frame) (message : Arp) :
    (e.answerArp receiver frame message).2.outbox.sent =
      e.outbox.sent ++ ((e.reply? frame message).map (Sent.mk receiver)).toList := by
  unfold answerArp reply?
  by_cases request : message.isRequest = true
  · by_cases gateway : e.regions.isGateway (.v4 message.targetIp) = true
    · rw [if_pos request, if_pos gateway, if_pos ⟨request, gateway⟩]
      cases e.regions.gatewayMac with
      | none => exact (List.append_nil _).symm
      | some mac => rfl
    · rw [if_pos request, if_neg gateway, if_neg fun h => gateway h.2]
      exact (List.append_nil _).symm
  · rw [if_neg request, if_neg fun h => request h.1]
    exact (List.append_nil _).symm

theorem classify_of_arp (receiver : ConnectPoint) (h : frame.etherType = EtherType.arp) :
    e.classify receiver frame =
      match frame.arp? with
      | none => (.unparsed, e)
      | some message => (.arpHandled (e.answerArp receiver frame message).1,
          (e.answerArp receiver frame message).2) := by
  have control := Frame.not_isControl_of_arp h
  unfold classify
  cases frame.arp? with
  | none => exact (if_neg control).trans (if_pos h)
  | some message => exact (if_neg control).trans (if_pos h)

theorem outbox_dispatch (e : Engine) (frame : Frame) (src dst : String) :
    (e.dispatch frame src dst).2.outbox = e.outbox := by
  unfold dispatch
  cases e.policiesFor src dst with
  | nil => rfl
  | cons first rest => exact outbox_routeAll e frame (first :: rest)

theorem outbox_classify_of_not_arp (receiver : ConnectPoint)
    (h : frame.etherType ≠ EtherType.arp) : (e.classify receiver frame).2.outbox = e.outbox := by
  cases hregions : e.regionsOf? frame with
  | some ends => rw [classify_eq_dispatch receiver hregions, outbox_dispatch]
  | none =>
      rcases classify_of_unrouted receiver hregions with quiet | ⟨arp, -⟩
      · generalize e.classify receiver frame = answer at quiet
        simp only [quietAnswers, List.mem_cons, List.not_mem_nil, or_false] at quiet
        rcases quiet with rfl | rfl | rfl | rfl <;> rfl
      · exact absurd arp h

theorem process_eq_classify (e : Engine) (receiver : ConnectPoint)
    (read : Frame.ofBytes? data = some frame) :
    e.process receiver data = e.counting.classify receiver frame := by
  simp only [process, read, counting]

theorem sent_process (e : Engine) (receiver : ConnectPoint) (data : Bytes) :
    (e.process receiver data).2.outbox.sent =
      e.outbox.sent ++ ((e.replyTo? data).map (Sent.mk receiver)).toList := by
  cases read : Frame.ofBytes? data with
  | none =>
      simp only [process, replyTo?, read]
      exact (List.append_nil _).symm
  | some frame =>
      have sought : e.replyTo? data = frame.arp?.bind (e.reply? frame) := by
        simp only [replyTo?, read, Option.bind_eq_bind, Option.bind_some]
      rw [process_eq_classify e receiver read, sought]
      cases decoded : frame.arp? with
      | some message =>
          rw [classify_of_arp receiver (Frame.etherType_of_arp? read decoded)]
          simp only [decoded]
          exact sent_answerArp e.counting receiver frame message
      | none =>
          -- another type, or an ARP body that does not decode
          have outbox : (e.counting.classify receiver frame).2.outbox = e.outbox := by
            by_cases arp : frame.etherType = EtherType.arp
            · rw [classify_of_arp receiver arp]
              simp only [decoded]
              rfl
            · exact outbox_classify_of_not_arp receiver arp
          rw [outbox]
          exact (List.append_nil _).symm

/-! ## What stays -/

theorem process_of_arp (e : Engine) (receiver : ConnectPoint)
    (read : Frame.ofBytes? data = some frame) (arp : frame.etherType = EtherType.arp) :
    e.process receiver data =
      match frame.arp? with
      | none => (.unparsed, e.counting)
      | some message => (.arpHandled (e.counting.answerArp receiver frame message).1,
          (e.counting.answerArp receiver frame message).2) :=
  (process_eq_classify e receiver read).trans (classify_of_arp receiver arp)

theorem outcomesOf_arp (e : Engine) (read : Frame.ofBytes? data = some frame)
    (arp : frame.etherType = EtherType.arp) : e.outcomesOf data = [] := by
  have unrouted : e.regionsOf? frame = none := if_pos (.inr arp)
  simp only [outcomesOf, read, unrouted]

theorem answerArp_only_replies (e : Engine) (receiver : ConnectPoint) (frame : Frame)
    (message : Arp) :
    let after := (e.answerArp receiver frame message).2
    after = { e with
      outbox := { e.outbox with sent := after.outbox.sent }
      counters := { e.counters with arpReplies := after.counters.arpReplies } } := by
  unfold answerArp
  split
  · split
    · split <;> rfl
    · rfl
  · rfl

theorem process_arp_only_replies (e : Engine) (receiver : ConnectPoint)
    (read : Frame.ofBytes? data = some frame) (arp : frame.etherType = EtherType.arp) :
    let after := (e.process receiver data).2
    after = { e with
      outbox := { e.outbox with sent := after.outbox.sent }
      counters := { e.counters with
        packets := e.counters.packets + 1
        arpReplies := after.counters.arpReplies } } := by
  rw [process_of_arp e receiver read arp]
  cases frame.arp? with
  | none => rfl
  | some message => exact answerArp_only_replies e.counting receiver frame message

/--
Under every configuration a packet makes the engine send a frame exactly if it asks for a gateway
and there is a MAC address for the gateways.  It is then one frame, sent where the packet came in,
and it reads as the reply in the name of the gateway.  No ARP frame is routed under any policy or
changes more than the frames sent and the counts of packets and replies; one whose body does not
decode counts as no frame.
-/
theorem gateways_answer_requests (e : Engine) (regions : Regions) (receiver : ConnectPoint)
    (data : Bytes) :
    let before := e.reload regions
    let answer := before.process receiver data
    (∃ emitted, answer.2.outbox.sent = before.outbox.sent ++ emitted ∧
      (emitted ≠ [] ↔
        ∃ frame message mac, regions.Asked data frame message ∧ regions.gatewayMac = some mac) ∧
      ∀ frame message mac, regions.Asked data frame message → regions.gatewayMac = some mac →
        ∃ bytes, emitted = [⟨receiver, bytes⟩] ∧ Frame.ofBytes? bytes = some
          { dst := message.senderMac
            src := mac
            vlan := frame.vlan
            etherType := EtherType.arp
            payload := .arp
              { opcode := Arp.replyCode
                senderMac := mac
                senderIp := message.targetIp
                targetMac := message.senderMac
                targetIp := message.senderIp } }) ∧
    ∀ frame, Frame.ofBytes? data = some frame → frame.etherType = EtherType.arp →
      before.outcomesOf data = [] ∧
      answer.2 = { before with
        outbox := { before.outbox with sent := answer.2.outbox.sent }
        counters := { before.counters with
          packets := before.counters.packets + 1
          arpReplies := answer.2.counters.arpReplies } } ∧
      (frame.arp? = none → answer.1 = .unparsed) ∧
      ∀ message, frame.arp? = some message → ∃ reply, answer.1 = .arpHandled reply := by
  intro before answer
  constructor
  · refine ⟨_, sent_process before receiver data, ?_, ?_⟩
    · rw [ne_eq, Option.toList_eq_nil_iff, Option.map_eq_none_iff, ← ne_eq,
        Option.ne_none_iff_exists']
      constructor
      · rintro ⟨bytes, reply⟩
        obtain ⟨frame, message, mac, asked, hmac, -⟩ := replyTo?_reload_eq_some_iff.1 reply
        exact ⟨frame, message, mac, asked, hmac⟩
      · rintro ⟨frame, message, mac, asked, hmac⟩
        exact ⟨_, replyTo?_reload_eq_some_iff.2 ⟨frame, message, mac, asked, hmac, rfl⟩⟩
    · intro frame message mac asked hmac
      have reply : before.replyTo? data = some (message.replyFrame mac frame.vlan) :=
        replyTo?_reload_eq_some_iff.2 ⟨frame, message, mac, asked, hmac, rfl⟩
      refine ⟨_, ?_, Frame.ofBytes?_replyFrame asked.read message mac⟩
      rw [reply]
      rfl
  · intro frame read arp
    have answered := congrArg Prod.fst (process_of_arp before receiver read arp)
    refine ⟨outcomesOf_arp before read arp, process_arp_only_replies before receiver read arp,
      fun broken => ?_, fun message decoded => ?_⟩
    · rw [broken] at answered
      exact answered
    · rw [decoded] at answered
      exact ⟨_, answered⟩

end Engine

def guardedRegions : Regions := { lineRegions with gatewayMac := some ⟨2, 0, 0, 0, 0, 0xff⟩ }

def taggedRequest : Arp where
  opcode := Arp.requestCode
  senderMac := westHost.id.mac
  senderIp := ⟨10, 0, 0, 1⟩
  targetMac := ⟨0, 0, 0, 0, 0, 0⟩
  targetIp := ⟨10, 0, 0, 254⟩

def taggedRequestFrame : Frame where
  dst := ⟨0xff, 0xff, 0xff, 0xff, 0xff, 0xff⟩
  src := westHost.id.mac
  vlan := some 42
  etherType := EtherType.arp
  payload := .arp taggedRequest

def taggedRequestPacket : Bytes :=
  (Envelope.marked taggedRequestFrame.src taggedRequestFrame.dst (some 42) none).arp taggedRequest

theorem taggedRequest_answered :
    let before := Engine.forkedEngine.reload guardedRegions
    guardedRegions.Asked taggedRequestPacket taggedRequestFrame taggedRequest ∧
    (∃ bytes, (before.process ⟨"a", 1⟩ taggedRequestPacket).2.outbox.sent =
        before.outbox.sent ++ [⟨⟨"a", 1⟩, bytes⟩] ∧
      (Frame.ofBytes? bytes).map Frame.vlan = some (some 42)) ∧
    before.outcomesOf taggedRequestPacket = [] := by
  intro before
  have read : Frame.ofBytes? taggedRequestPacket = some taggedRequestFrame := by decide +kernel
  have asked : guardedRegions.Asked taggedRequestPacket taggedRequestFrame taggedRequest :=
    ⟨read, rfl, rfl, _, List.mem_cons_self, rfl⟩
  obtain ⟨⟨emitted, sent, -, answered⟩, arp⟩ :=
    Engine.gateways_answer_requests .forkedEngine guardedRegions ⟨"a", 1⟩ taggedRequestPacket
  obtain ⟨bytes, rfl, reply⟩ := answered _ _ _ asked rfl
  refine ⟨asked, ⟨bytes, sent, ?_⟩, (arp _ read rfl).1⟩
  rw [reply]
  rfl

end PolicyRouting
