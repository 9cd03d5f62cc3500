import PolicyRouting.Proofs.Routing.Matching

/-!
# Selectors under any switches

A selector is put together from parts: the frame type, the addresses, the VLAN,
the DSCP and the transport.  A switch leaves its part out or puts it in, and a
part that is there pins its own fields of the packet.  So a selector takes the
frames that agree with its packet in the fields that are switched on.  The
policy only decides whether there is a selector.
-/

namespace PolicyRouting

namespace Settings

variable {settings : Settings} {class_ : RouteClass} {frame other : Frame} {policy : Policy}
  {dstHost : HostId} {selector : Selector} {header header' : Ipv4Header} {carrier : Carrier}

theorem selector?_eq_some_iff : settings.selector? class_ frame policy dstHost = some selector ↔
    ∃ carrier header transport, carrier? class_ policy.application = some carrier ∧
      frame.ipv4? = some header ∧ policy.allowsHosts (.untagged frame.src) dstHost = true ∧
      frame.etherType = EtherType.ipv4 ∧ header.protocol = carrier.number ∧
      settings.transportCriteria? policy carrier header.transport = some transport ∧
      selector.criteria = [.ethType EtherType.ipv4] ++ settings.addressCriteria class_ frame header
        ++ settings.vlanCriteria frame ++ settings.dscpCriteria header ++ transport := by
  simp only [selector?_eq_some_iff_criteria, criteria?, Option.ite_none_right_eq_some,
    Option.map_eq_some_iff]
  constructor
  · rintro ⟨carrier, hcarrier, header, hheader, allowed, ⟨htype, hprotocol⟩, transport, htransport,
      hcriteria⟩
    exact ⟨carrier, header, transport, hcarrier, hheader, allowed, htype, hprotocol, htransport,
      hcriteria.symm⟩
  · rintro ⟨carrier, header, transport, hcarrier, hheader, allowed, htype, hprotocol, htransport,
      hcriteria⟩
    exact ⟨carrier, hcarrier, header, hheader, allowed, ⟨htype, hprotocol⟩, transport, htransport,
      hcriteria.symm⟩

def pinsTransport (settings : Settings) : Carrier → Bool
  | .tcp | .udp => settings.matchPorts
  | .icmp => settings.matchIcmp

def transportPasses (settings : Settings) (policy : Policy) : Transport → Bool
  | .tcp srcPort dstPort | .udp srcPort dstPort => settings.portsPass policy srcPort dstPort
  | .icmp _ _ | .other => true

/-- The policy decides whether the transport passes, and never what is pinned of it. -/
theorem transportCriteria?_eq_some_iff {transport : Transport} {criteria : List Criterion} :
    settings.transportCriteria? policy carrier transport = some criteria ↔
      settings.transportPasses policy transport = true ∧
      ∃ pinned, pinnedTransport? carrier transport = some pinned ∧
        (if settings.pinsTransport carrier then pinned else []) = criteria := by
  cases carrier <;> cases transport <;>
    simp only [transportCriteria?, transportPasses, pinnedTransport?, Option.ite_none_right_eq_some,
      Option.some.injEq, exists_eq_left', true_and, reduceCtorEq, false_and, and_false,
      exists_false] <;> rfl

theorem transportCriteria?_eq_some {transport : Transport} {criteria : List Criterion}
    (h : settings.transportCriteria? policy carrier transport = some criteria) :
    ∃ pinned, pinnedTransport? carrier transport = some pinned ∧
      criteria = if settings.pinsTransport carrier then pinned else [] := by
  obtain ⟨-, pinned, hpinned, made⟩ := transportCriteria?_eq_some_iff.1 h
  exact ⟨pinned, hpinned, made.symm⟩

theorem selector?_unique {policy' : Policy} {dstHost' : HostId} {selector' : Selector}
    (h : settings.selector? class_ frame policy dstHost = some selector)
    (h' : settings.selector? class_ frame policy' dstHost' = some selector') :
    selector' = selector := by
  obtain ⟨carrier, header, transport, -, hheader, -, -, hprotocol, htransport, hcriteria⟩ :=
    selector?_eq_some_iff.1 h
  obtain ⟨carrier', again, transport', -, hagain, -, -, hprotocol', htransport', hcriteria'⟩ :=
    selector?_eq_some_iff.1 h'
  obtain rfl : header = again := Option.some.inj (hheader.symm.trans hagain)
  -- the packet has one protocol, whichever application leads to the carrier
  obtain rfl : carrier = carrier' := Carrier.number_inj (hprotocol.symm.trans hprotocol')
  obtain ⟨pinned, hpinned, rfl⟩ := transportCriteria?_eq_some htransport
  obtain ⟨pinned', hpinned', rfl⟩ := transportCriteria?_eq_some htransport'
  obtain rfl : pinned = pinned' := Option.some.inj (hpinned.symm.trans hpinned')
  obtain ⟨criteria⟩ := selector
  obtain ⟨criteria'⟩ := selector'
  rw [Selector.mk.injEq]
  exact hcriteria'.trans hcriteria.symm

theorem selector?_kinds_nodup
    (h : settings.selector? class_ frame policy dstHost = some selector) :
    (selector.criteria.map Criterion.kind).Nodup := by
  obtain ⟨_, -, _, -, -, listed⟩ := selector?_eq_some_iff_criteria.1 h
  exact criteria?_kinds_nodup listed

/-! ## Agreement -/

/--
A packet agrees with the packet of a selector, each given by its frame and its IP header, in the
fields that are switched on.
-/
structure Agrees (settings : Settings) (class_ : RouteClass) (frame : Frame) (header : Ipv4Header)
    (other : Frame) (header' : Ipv4Header) : Prop where
  ips : settings.matchAddresses = true → header'.src = header.src ∧ header'.dst = header.dst
  dstMac : settings.matchAddresses = true → class_ = .intra → other.dst = frame.dst
  srcMac : settings.matchAddresses = true → class_ = .intra → settings.dstMacOnly = false →
    other.src = frame.src
  vlan : settings.matchVlan = true → ∀ vlan, frame.vlan = some vlan → other.vlan = some vlan
  dscp : settings.matchDscp = true → header'.dscp = header.dscp
  ports : settings.matchPorts = true →
    header.protocol = IpProtocol.tcp ∨ header.protocol = IpProtocol.udp →
    header'.protocol = header.protocol ∧ header'.transport = header.transport
  icmp : settings.matchIcmp = true → header.protocol = IpProtocol.icmp →
    header'.protocol = header.protocol ∧ header'.transport = header.transport

variable {port : UInt32}

theorem holds_addressCriteria_iff (hheader' : other.ipv4? = some header') :
    (∀ criterion ∈ settings.addressCriteria class_ frame header, criterion.Holds port other) ↔
      (settings.matchAddresses = true → header'.src = header.src ∧ header'.dst = header.dst) ∧
      (settings.matchAddresses = true → class_ = .intra → other.dst = frame.dst) ∧
      (settings.matchAddresses = true → class_ = .intra → settings.dstMacOnly = false →
        other.src = frame.src) := by
  cases addresses : settings.matchAddresses with
  | false => simp [addressCriteria, addresses]
  | true =>
      cases class_ with
      | inter => simp [addressCriteria, macCriteria, addresses, Criterion.Holds, hheader']
      | intra =>
          cases only : settings.dstMacOnly <;>
            simp [addressCriteria, macCriteria, addresses, only, Criterion.Holds, hheader',
              and_assoc, and_comm]

theorem holds_vlanCriteria_iff :
    (∀ criterion ∈ settings.vlanCriteria frame, criterion.Holds port other) ↔
      (settings.matchVlan = true → ∀ vlan, frame.vlan = some vlan → other.vlan = some vlan) := by
  cases on : settings.matchVlan <;> cases tag : frame.vlan <;>
    simp [vlanCriteria, on, tag, Criterion.Holds]

theorem holds_dscpCriteria_iff (hheader' : other.ipv4? = some header') :
    (∀ criterion ∈ settings.dscpCriteria header, criterion.Holds port other) ↔
      (settings.matchDscp = true → header'.dscp = header.dscp) := by
  cases on : settings.matchDscp <;> simp [dscpCriteria, on, Criterion.Holds, hheader']

theorem holds_transportCriteria?_iff {transport : Transport} {criteria : List Criterion}
    (hheader' : other.ipv4? = some header')
    (h : settings.transportCriteria? policy carrier transport = some criteria) :
    (∀ criterion ∈ criteria, criterion.Holds port other) ↔
      (settings.pinsTransport carrier = true →
        header'.protocol = carrier.number ∧ header'.transport = transport) := by
  obtain ⟨pinned, hpinned, rfl⟩ := transportCriteria?_eq_some h
  have pins := holds_pinnedTransport?_iff port hheader' hpinned
  cases on : settings.pinsTransport carrier with
  | false => simp
  | true => simp only [if_true, pins, true_imp_iff]

theorem pinsTransport_iff (settings : Settings) (hprotocol : header.protocol = carrier.number) :
    settings.pinsTransport carrier = true ↔
      (settings.matchPorts = true ∧
          (header.protocol = IpProtocol.tcp ∨ header.protocol = IpProtocol.udp)) ∨
        (settings.matchIcmp = true ∧ header.protocol = IpProtocol.icmp) := by
  rw [hprotocol]
  cases carrier <;> simp [pinsTransport, Carrier.number, IpProtocol.tcp, IpProtocol.udp,
    IpProtocol.icmp]

theorem takes_iff_agrees (h : settings.selector? class_ frame policy dstHost = some selector)
    (hheader : frame.ipv4? = some header) (htype' : other.etherType = EtherType.ipv4)
    (hheader' : other.ipv4? = some header') :
    selector.Takes port other ↔ settings.Agrees class_ frame header other header' := by
  obtain ⟨carrier, again, transport, -, hagain, -, -, hprotocol, htransport, hcriteria⟩ :=
    selector?_eq_some_iff.1 h
  obtain rfl : header = again := Option.some.inj (hheader.symm.trans hagain)
  have pins := settings.pinsTransport_iff hprotocol
  rw [Selector.Takes, hcriteria]
  simp only [List.forall_mem_append, holds_addressCriteria_iff hheader', holds_vlanCriteria_iff,
    holds_dscpCriteria_iff hheader', holds_transportCriteria?_iff hheader' htransport, ← hprotocol]
  constructor
  · rintro ⟨⟨⟨⟨-, ips, dstMac, srcMac⟩, vlan⟩, dscp⟩, transport⟩
    exact
      { ips, dstMac, srcMac, vlan, dscp
        ports := fun on protocol => transport (pins.2 (.inl ⟨on, protocol⟩))
        icmp := fun on protocol => transport (pins.2 (.inr ⟨on, protocol⟩)) }
  · intro agrees
    refine ⟨⟨⟨⟨?_, agrees.ips, agrees.dstMac, agrees.srcMac⟩, agrees.vlan⟩, agrees.dscp⟩, ?_⟩
    · -- the frame type, which every IPv4 frame has
      intro criterion hcriterion
      obtain rfl := List.mem_singleton.1 hcriterion
      exact htype'
    · intro pinned
      obtain ⟨on, protocol⟩ | ⟨on, protocol⟩ := pins.1 pinned
      · exact agrees.ports on protocol
      · exact agrees.icmp on protocol

theorem Agrees.refl (settings : Settings) (class_ : RouteClass) (frame : Frame)
    (header : Ipv4Header) : settings.Agrees class_ frame header frame header where
  ips := fun _ => ⟨rfl, rfl⟩
  dstMac := fun _ _ => rfl
  srcMac := fun _ _ _ => rfl
  vlan := fun _ _ => id
  dscp := fun _ => rfl
  ports := fun _ _ => ⟨rfl, rfl⟩
  icmp := fun _ _ => ⟨rfl, rfl⟩

/--
Under any switches, a selector takes its own packet and the packets that agree with it in what is
switched on; it has no kind twice; and it is the selector of the packet under every policy that has
one in the class.
-/
theorem selector_takes_exactly_agreeing
    (h : settings.selector? class_ frame policy dstHost = some selector) :
    (∀ port, selector.Takes port frame) ∧
    (selector.criteria.map Criterion.kind).Nodup ∧
    (∀ policy' dstHost' selector',
      settings.selector? class_ frame policy' dstHost' = some selector' → selector' = selector) ∧
    ∃ header, frame.ipv4? = some header ∧
      ∀ port other header', other.etherType = EtherType.ipv4 → other.ipv4? = some header' →
        (selector.Takes port other ↔ settings.Agrees class_ frame header other header') := by
  obtain ⟨-, header, -, -, hheader, -, htype, -, -, -⟩ := selector?_eq_some_iff.1 h
  refine ⟨fun port => ?_, selector?_kinds_nodup h, fun _ _ _ => selector?_unique h, header, hheader,
    fun port other header' htype' hheader' => takes_iff_agrees h hheader htype' hheader'⟩
  exact (takes_iff_agrees h hheader htype hheader).2 (.refl settings class_ frame header)

def keenSettings : Settings :=
  { dstMacOnly := true, matchVlan := true, matchDscp := true }

def voicedFrame : Frame where
  dst := ⟨2, 0, 0, 0, 0, 2⟩
  src := ⟨2, 0, 0, 0, 0, 1⟩
  vlan := some 42
  etherType := EtherType.ipv4
  payload := .ipv4 ⟨⟨10, 0, 0, 1⟩, ⟨10, 0, 0, 2⟩, IpProtocol.tcp, 46, .tcp 50000 80⟩

def rehomedFrame : Frame := { voicedFrame with src := ⟨2, 0, 0, 0, 0, 9⟩ }

def untaggedFrame : Frame := { voicedFrame with vlan := none }

theorem keenSelector_takes_rehomed_not_untagged :
    ∃ selector, keenSettings.selector? .intra voicedFrame campusPolicy
        (.untagged voicedFrame.dst) = some selector ∧
      ∀ port, selector.Takes port rehomedFrame ∧ ¬ selector.Takes port untaggedFrame := by
  have made : keenSettings.selector? .intra voicedFrame campusPolicy
      (.untagged voicedFrame.dst) = some ⟨[.ethType EtherType.ipv4, .ipv4Src (.host ⟨10, 0, 0, 1⟩),
        .ipv4Dst (.host ⟨10, 0, 0, 2⟩), .ethDst ⟨2, 0, 0, 0, 0, 2⟩, .vlanId 42, .ipDscp 46,
        .ipProto IpProtocol.tcp, .tcpSrc 50000, .tcpDst 80]⟩ := by
    decide
  obtain ⟨-, -, -, header, hheader, takes⟩ := selector_takes_exactly_agreeing made
  refine ⟨_, made, fun port => ⟨?_, fun taken => ?_⟩⟩
  · refine (takes port rehomedFrame header rfl hheader).2
      { Agrees.refl keenSettings .intra voicedFrame header with srcMac := ?_ }
    exact fun _ _ off => absurd off (by decide)
  · have tagged := ((takes port untaggedFrame header rfl hheader).1 taken).vlan rfl 42 rfl
    exact absurd tagged (by decide)

end Settings

end PolicyRouting
