import PolicyRouting.Proofs.Routing.Selectors

/-!
# Selectors of replies

The reply to a frame has the two ends in each other's place.  Inside a region a
policy that has a selector for a frame has one for the reply to it: the host
filter asks for the two hosts in either order, one of the two ports has to be
the application's, and everything else is the same in both.  Where both MAC
addresses are pinned, the selector of the reply is that of the frame with
sources and destinations exchanged, so it takes the replies to the frames that
the other takes.
-/

namespace PolicyRouting

def Transport.reply : Transport → Transport
  | .tcp srcPort dstPort => .tcp dstPort srcPort
  | .udp srcPort dstPort => .udp dstPort srcPort
  | .icmp type code => .icmp type code
  | .other => .other

def Ipv4Header.reply (header : Ipv4Header) : Ipv4Header :=
  { header with src := header.dst, dst := header.src, transport := header.transport.reply }

def Payload.reply : Payload → Payload
  | .ipv4 header => .ipv4 header.reply
  | .arp message => .arp message
  | .unparsed => .unparsed

/-- The frame with its ends exchanged; the tag, the protocol and the type of an ICMP message stay. -/
def Frame.reply (frame : Frame) : Frame :=
  { frame with dst := frame.src, src := frame.dst, payload := frame.payload.reply }

def Criterion.opposite : Criterion → Criterion
  | .ethSrc mac => .ethDst mac
  | .ethDst mac => .ethSrc mac
  | .ipv4Src net => .ipv4Dst net
  | .ipv4Dst net => .ipv4Src net
  | .tcpSrc port => .tcpDst port
  | .tcpDst port => .tcpSrc port
  | .udpSrc port => .udpDst port
  | .udpDst port => .udpSrc port
  | criterion => criterion

variable {frame other : Frame} {header : Ipv4Header} {port : UInt32}

@[simp] theorem Transport.reply_reply (transport : Transport) : transport.reply.reply = transport := by
  cases transport <;> rfl

@[simp] theorem Frame.reply_reply (frame : Frame) : frame.reply.reply = frame := by
  obtain ⟨dst, src, vlan, etherType, payload⟩ := frame
  cases payload with
  | ipv4 header => simp [reply, Payload.reply, Ipv4Header.reply]
  | arp message | unparsed => rfl

@[simp] theorem Frame.ipv4?_reply : frame.reply.ipv4? = frame.ipv4?.map Ipv4Header.reply := by
  obtain ⟨dst, src, vlan, etherType, payload⟩ := frame
  cases payload <;> rfl

@[simp] theorem Frame.transport?_reply :
    frame.reply.transport? = frame.transport?.map Transport.reply := by
  simp [transport?, Function.comp_def, Ipv4Header.reply]

theorem Criterion.holds_opposite_iff (criterion : Criterion) :
    criterion.opposite.Holds port frame.reply ↔ criterion.Holds port frame := by
  cases criterion with
  | inPort p | ethType type | ethSrc mac | ethDst mac | vlanId vlan => rfl
  | ipDscp dscp | ipProto protocol | ipv4Src net | ipv4Dst net =>
      cases h : frame.ipv4? <;> simp [opposite, Holds, Ipv4Header.reply, h]
  | tcpSrc p | tcpDst p | udpSrc p | udpDst p | icmpType type | icmpCode code =>
      cases h : frame.transport? with
      | none => simp [opposite, Holds, h]
      | some transport => cases transport <;> simp [opposite, Holds, Transport.reply, h]

theorem Policy.allowsHosts_comm (policy : Policy) (a b : HostId) :
    policy.allowsHosts a b = policy.allowsHosts b a := by
  unfold allowsHosts
  cases policy.srcHosts.isEmpty <;> cases policy.dstHosts.isEmpty <;> simp only [Bool.or_comm]

namespace Settings

variable {settings : Settings} {policy : Policy} {carrier : Carrier} {request reply : Selector}

theorem addressCriteria_reply (bothMacs : settings.dstMacOnly = false) :
    (settings.addressCriteria .intra frame.reply header.reply).Perm
      ((settings.addressCriteria .intra frame header).map Criterion.opposite) := by
  unfold addressCriteria macCriteria
  split
  · simp only [bothMacs]
    exact .append (.swap _ _ []) (.swap _ _ [])
  · exact .refl []

theorem vlanCriteria_reply :
    settings.vlanCriteria frame.reply = (settings.vlanCriteria frame).map Criterion.opposite := by
  cases on : settings.matchVlan <;> cases tag : frame.vlan <;>
    simp [vlanCriteria, on, tag, Frame.reply, Criterion.opposite]

theorem dscpCriteria_reply : settings.dscpCriteria header.reply =
    (settings.dscpCriteria header).map Criterion.opposite := by
  cases on : settings.matchDscp <;> simp [dscpCriteria, on, Ipv4Header.reply, Criterion.opposite]

theorem transportPasses_reply (transport : Transport) :
    settings.transportPasses policy transport.reply =
      settings.transportPasses policy transport := by
  cases transport with
  | tcp src dst | udp src dst => exact Bool.or_right_comm _ _ _
  | icmp type code | other => rfl

theorem pinnedTransport?_reply {transport : Transport} {pinned : List Criterion}
    (h : pinnedTransport? carrier transport = some pinned) :
    ∃ pinned', pinnedTransport? carrier transport.reply = some pinned' ∧
      pinned'.Perm (pinned.map Criterion.opposite) := by
  cases carrier <;> cases transport <;> try contradiction
  all_goals
    obtain rfl := Option.some.inj h
    refine ⟨_, rfl, ?_⟩
  · exact .cons _ (.swap _ _ [])
  · exact .cons _ (.swap _ _ [])
  · exact .refl _

theorem transportCriteria?_reply {transport : Transport} {criteria : List Criterion}
    (h : settings.transportCriteria? policy carrier transport = some criteria) :
    ∃ criteria', settings.transportCriteria? policy carrier transport.reply = some criteria' ∧
      criteria'.Perm (criteria.map Criterion.opposite) := by
  obtain ⟨passes, pinned, hpinned, rfl⟩ := transportCriteria?_eq_some_iff.1 h
  obtain ⟨pinned', hpinned', exchanged⟩ := pinnedTransport?_reply hpinned
  rw [← transportPasses_reply] at passes
  refine ⟨_, transportCriteria?_eq_some_iff.2 ⟨passes, pinned', hpinned', rfl⟩, ?_⟩
  split
  · exact exchanged
  · exact .refl []

theorem exists_selector?_reply
    (h : settings.selector? .intra frame policy (.untagged frame.dst) = some request) :
    ∃ reply, settings.selector? .intra frame.reply policy (.untagged frame.src) = some reply ∧
      (settings.dstMacOnly = false →
        reply.criteria.Perm (request.criteria.map Criterion.opposite)) := by
  obtain ⟨carrier, header, transport, hcarrier, hheader, allowed, htype, hprotocol, htransport,
    hcriteria⟩ := selector?_eq_some_iff.1 h
  obtain ⟨transport', htransport', exchanged⟩ := transportCriteria?_reply htransport
  have hheader' : frame.reply.ipv4? = some header.reply := by rw [Frame.ipv4?_reply, hheader]; rfl
  rw [Policy.allowsHosts_comm] at allowed
  refine ⟨⟨_⟩, selector?_eq_some_iff.2 ⟨carrier, header.reply, transport', hcarrier, hheader',
    allowed, htype, hprotocol, htransport', rfl⟩, fun bothMacs => ?_⟩
  rw [hcriteria]
  simp only [List.map_append]
  refine .append (.append (.append (.append (.refl _) ?_) ?_) ?_) exchanged
  · exact addressCriteria_reply bothMacs
  · rw [vlanCriteria_reply]
  · rw [dscpCriteria_reply]

theorem takes_reply_iff (h : reply.criteria.Perm (request.criteria.map Criterion.opposite)) :
    reply.Takes port other.reply ↔ request.Takes port other := by
  simp only [Selector.Takes, h.mem_iff, List.forall_mem_map, Criterion.holds_opposite_iff]

/--
Inside a region a policy governs a frame and the reply to it alike, and its host filter does not
tell the two hosts apart.  Where both MAC addresses are pinned, the reply's criteria are those of
the frame about the opposite ends, and its selector takes the replies to what the frame's takes.
-/
theorem replies_treated_like_requests (settings : Settings) (policy : Policy) (frame : Frame) :
    (∀ a b, policy.allowsHosts a b = policy.allowsHosts b a) ∧
    ((∃ request, settings.selector? .intra frame policy (.untagged frame.dst) = some request) ↔
      ∃ reply, settings.selector? .intra frame.reply policy (.untagged frame.src) = some reply) ∧
    (settings.dstMacOnly = false → ∀ request reply,
      settings.selector? .intra frame policy (.untagged frame.dst) = some request →
      settings.selector? .intra frame.reply policy (.untagged frame.src) = some reply →
      reply.criteria.Perm (request.criteria.map Criterion.opposite) ∧
      ∀ port other, reply.Takes port other.reply ↔ request.Takes port other) := by
  refine ⟨policy.allowsHosts_comm, ⟨?_, ?_⟩, ?_⟩
  · rintro ⟨request, h⟩
    obtain ⟨reply, hreply, -⟩ := exists_selector?_reply h
    exact ⟨reply, hreply⟩
  · rintro ⟨reply, h⟩
    have own : settings.selector? .intra frame.reply policy (.untagged frame.reply.dst) =
        some reply := h
    -- the frame is the reply to its reply
    obtain ⟨request, hrequest, -⟩ := exists_selector?_reply own
    rw [Frame.reply_reply] at hrequest
    exact ⟨request, hrequest⟩
  · intro bothMacs request reply hrequest hreply
    obtain ⟨again, hagain, exchanged⟩ := exists_selector?_reply hrequest
    obtain rfl : again = reply := Option.some.inj (hagain.symm.trans hreply)
    exact ⟨exchanged bothMacs, fun _ _ => takes_reply_iff (exchanged bothMacs)⟩

end Settings

end PolicyRouting
