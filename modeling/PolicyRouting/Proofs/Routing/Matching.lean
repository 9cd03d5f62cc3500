import PolicyRouting.Proofs.Routing.Criteria
import PolicyRouting.Proofs.Routing.Hops

/-!
# Which frames a rule takes

A selector takes a frame when every criterion finds its field in it.  With the
switches as they are delivered, the selector for a frame pins its type, both IP
addresses, its transport and, inside a region, both MAC addresses.  So a frame
that is taken by the selector of another frame has the same selector, and a
policy that routed the other frame routes this one between the same hosts.
-/

namespace PolicyRouting

def Frame.transport? (frame : Frame) : Option Transport := frame.ipv4?.map (·.transport)

def Criterion.Holds (port : UInt32) (frame : Frame) : Criterion → Prop
  | .inPort p => port = p
  | .ethType type => frame.etherType = type
  | .ethSrc mac => frame.src = mac
  | .ethDst mac => frame.dst = mac
  | .vlanId vlan => frame.vlan = some vlan
  | .ipDscp dscp => ∃ header ∈ frame.ipv4?, header.dscp = dscp
  | .ipProto protocol => ∃ header ∈ frame.ipv4?, header.protocol = protocol
  | .ipv4Src net => ∃ header ∈ frame.ipv4?, net.contains header.src = true
  | .ipv4Dst net => ∃ header ∈ frame.ipv4?, net.contains header.dst = true
  | .tcpSrc p => ∃ dst, frame.transport? = some (.tcp p dst)
  | .tcpDst p => ∃ src, frame.transport? = some (.tcp src p)
  | .udpSrc p => ∃ dst, frame.transport? = some (.udp p dst)
  | .udpDst p => ∃ src, frame.transport? = some (.udp src p)
  | .icmpType type => ∃ code, frame.transport? = some (.icmp type code)
  | .icmpCode code => ∃ type, frame.transport? = some (.icmp type code)

def Selector.Takes (selector : Selector) (port : UInt32) (frame : Frame) : Prop :=
  ∀ criterion ∈ selector.criteria, criterion.Holds port frame

@[simp] theorem Ipv4Net.contains_host {ip other : Ipv4} :
    (Ipv4Net.host ip).contains other = true ↔ other = ip := by
  have full : (32 : Nat) - ((32 : Fin 33) : Nat) = 0 := rfl
  simp only [Ipv4Net.contains, Ipv4Net.host, full, clearLow, Nat.shiftRight_zero,
    Nat.shiftLeft_zero, decide_eq_true_eq]
  constructor
  · exact Ipv4.toNat_injective
  · exact congrArg Ipv4.toNat

/-! ## The selector of a frame -/

def pinnedTransport? : Carrier → Transport → Option (List Criterion)
  | .tcp, .tcp src dst => some [.ipProto IpProtocol.tcp, .tcpSrc src, .tcpDst dst]
  | .udp, .udp src dst => some [.ipProto IpProtocol.udp, .udpSrc src, .udpDst dst]
  | .icmp, .icmp type code => some [.ipProto IpProtocol.icmp, .icmpType type, .icmpCode code]
  | _, _ => none

def pinnedAddresses (header : Ipv4Header) : List Criterion :=
  [.ethType EtherType.ipv4, .ipv4Src (.host header.src), .ipv4Dst (.host header.dst)]

def pinnedMacs (class_ : RouteClass) (frame : Frame) : List Criterion :=
  match class_ with
  | .inter => []
  | .intra => [.ethSrc frame.src, .ethDst frame.dst]

/-- All that the selector for a frame depends on is the class and the carrier. -/
def pinned? (class_ : RouteClass) (frame : Frame) (carrier : Carrier) : Option Selector := do
  let header ← frame.ipv4?
  if frame.etherType = EtherType.ipv4 ∧ header.protocol = carrier.number then
    (pinnedTransport? carrier header.transport).map fun transport =>
      ⟨pinnedAddresses header ++ pinnedMacs class_ frame ++ transport⟩
  else none

variable {class_ : RouteClass} {frame other : Frame} {carrier : Carrier} {selector : Selector}

theorem pinned?_eq_some_iff : pinned? class_ frame carrier = some selector ↔
    ∃ header transport, frame.ipv4? = some header ∧ frame.etherType = EtherType.ipv4 ∧
      header.protocol = carrier.number ∧
      pinnedTransport? carrier header.transport = some transport ∧
      pinnedAddresses header ++ pinnedMacs class_ frame ++ transport = selector.criteria := by
  obtain ⟨criteria⟩ := selector
  simp only [pinned?, Option.bind_eq_bind, Option.bind_eq_some_iff, Option.ite_none_right_eq_some,
    Option.map_eq_some_iff, Selector.mk.injEq]
  constructor
  · rintro ⟨header, hheader, ⟨htype, hprotocol⟩, transport, htransport, rfl⟩
    exact ⟨header, transport, hheader, htype, hprotocol, htransport, rfl⟩
  · rintro ⟨header, transport, hheader, htype, hprotocol, htransport, rfl⟩
    exact ⟨header, hheader, ⟨htype, hprotocol⟩, transport, htransport, rfl⟩

theorem Carrier.number_inj {k k' : Carrier} (h : k.number = k'.number) : k = k' := by
  cases k <;> cases k' <;> first | rfl | (revert h; decide)

theorem pinned?_unique {carrier' : Carrier} {selector' : Selector}
    (h : pinned? class_ frame carrier = some selector)
    (h' : pinned? class_ frame carrier' = some selector') : selector = selector' := by
  obtain ⟨header, -, hheader, -, hprotocol, -, -⟩ := pinned?_eq_some_iff.1 h
  obtain ⟨header', -, hheader', -, hprotocol', -, -⟩ := pinned?_eq_some_iff.1 h'
  obtain rfl : header = header' := Option.some.inj (hheader.symm.trans hheader')
  obtain rfl : carrier = carrier' := Carrier.number_inj (hprotocol.symm.trans hprotocol')
  exact Option.some.inj (h.symm.trans h')

theorem holds_pinnedTransport?_iff {transport : Transport} {criteria : List Criterion}
    {header : Ipv4Header} (port : UInt32) (hheader : frame.ipv4? = some header)
    (h : pinnedTransport? carrier transport = some criteria) :
    (∀ criterion ∈ criteria, criterion.Holds port frame) ↔
      header.protocol = carrier.number ∧ header.transport = transport := by
  have sees : frame.transport? = some header.transport := by
    rw [Frame.transport?, hheader]
    rfl
  cases carrier with
  | tcp =>
      cases transport with
      | tcp src dst =>
          obtain rfl := Option.some.inj h
          cases hcarried : header.transport <;>
            simp [Criterion.Holds, sees, hheader, hcarried, Carrier.number]
      | udp src dst | icmp type code | other => simp [pinnedTransport?] at h
  | udp =>
      cases transport with
      | udp src dst =>
          obtain rfl := Option.some.inj h
          cases hcarried : header.transport <;>
            simp [Criterion.Holds, sees, hheader, hcarried, Carrier.number]
      | tcp src dst | icmp type code | other => simp [pinnedTransport?] at h
  | icmp =>
      cases transport with
      | icmp type code =>
          obtain rfl := Option.some.inj h
          cases hcarried : header.transport <;>
            simp [Criterion.Holds, sees, hheader, hcarried, Carrier.number]
      | tcp src dst | udp src dst | other => simp [pinnedTransport?] at h

theorem holds_pinnedAddresses_iff {header : Ipv4Header} (port : UInt32) :
    (∀ criterion ∈ pinnedAddresses header, criterion.Holds port other) ↔
      other.etherType = EtherType.ipv4 ∧
        ∃ header', other.ipv4? = some header' ∧ header'.src = header.src ∧
          header'.dst = header.dst := by
  cases h : other.ipv4? <;> simp [pinnedAddresses, Criterion.Holds, h]

theorem holds_pinnedMacs_iff (port : UInt32) :
    (∀ criterion ∈ pinnedMacs class_ frame, criterion.Holds port other) ↔
      (class_ = .intra → other.src = frame.src ∧ other.dst = frame.dst) := by
  cases class_ <;> simp [pinnedMacs, Criterion.Holds]

/-- What a frame has in common with the frame whose selector takes it. -/
structure SameFlow (class_ : RouteClass) (frame other : Frame) : Prop where
  headers : ∃ header header', frame.ipv4? = some header ∧ other.ipv4? = some header' ∧
    header'.src = header.src ∧ header'.dst = header.dst
  macs : class_ = .intra → other.src = frame.src ∧ other.dst = frame.dst

theorem pinned?_of_takes {port : UInt32} (h : pinned? class_ frame carrier = some selector)
    (takes : selector.Takes port other) :
    pinned? class_ other carrier = some selector ∧ SameFlow class_ frame other := by
  obtain ⟨header, transport, hheader, htype, hprotocol, htransport, hcriteria⟩ :=
    pinned?_eq_some_iff.1 h
  have holds : ∀ criterion ∈ pinnedAddresses header ++ pinnedMacs class_ frame ++ transport,
      criterion.Holds port other := by
    rw [hcriteria]
    exact takes
  rw [List.forall_mem_append, List.forall_mem_append] at holds
  obtain ⟨type, header', hheader', src, dst⟩ := (holds_pinnedAddresses_iff port).1 holds.1.1
  have macs := (holds_pinnedMacs_iff port).1 holds.1.2
  obtain ⟨protocol, same_transport⟩ :=
    (holds_pinnedTransport?_iff port hheader' htransport).1 holds.2
  refine ⟨pinned?_eq_some_iff.2 ⟨header', transport, hheader', type, protocol, ?_, ?_⟩,
    ⟨header, header', hheader, hheader', src, dst⟩, macs⟩
  · rw [same_transport]
    exact htransport
  · rw [pinnedAddresses, src, dst, ← hcriteria]
    cases class_ with
    | inter => rfl
    | intra =>
        obtain ⟨hsrc, hdst⟩ := macs rfl
        simp only [pinnedMacs, hsrc, hdst]
        rfl

theorem takes_of_pinned? (port : UInt32) (h : pinned? class_ frame carrier = some selector) :
    selector.Takes port frame := by
  obtain ⟨header, transport, hheader, htype, hprotocol, htransport, hcriteria⟩ :=
    pinned?_eq_some_iff.1 h
  rw [Selector.Takes, ← hcriteria, List.forall_mem_append, List.forall_mem_append]
  refine ⟨⟨?_, ?_⟩, ?_⟩
  · exact (holds_pinnedAddresses_iff port).2 ⟨htype, header, hheader, rfl, rfl⟩
  · exact (holds_pinnedMacs_iff port).2 fun _ => ⟨rfl, rfl⟩
  · exact (holds_pinnedTransport?_iff port hheader htransport).2 ⟨hprotocol, rfl⟩

/-- The switches that say which fields a rule matches are as they are delivered. -/
structure Settings.Plain (settings : Settings) : Prop where
  addresses : settings.matchAddresses = true
  ports : settings.matchPorts = true
  icmp : settings.matchIcmp = true
  dstMacOnly : settings.dstMacOnly = false
  vlan : settings.matchVlan = false
  dscp : settings.matchDscp = false
  appPort : settings.matchAppPort = false

theorem Settings.Plain.transportCriteria? {settings : Settings} (plain : settings.Plain)
    (policy : Policy) (carrier : Carrier) (transport : Transport) :
    settings.transportCriteria? policy carrier transport =
      pinnedTransport? carrier transport := by
  cases carrier <;> cases transport <;>
    simp [Settings.transportCriteria?, pinnedTransport?, Settings.portsPass, plain.ports,
      plain.icmp, plain.appPort]

theorem Settings.Plain.selector?_eq_some_iff {settings : Settings} (plain : settings.Plain)
    {policy : Policy} {dstHost : HostId} :
    settings.selector? class_ frame policy dstHost = some selector ↔
      ∃ carrier, carrier? class_ policy.application = some carrier ∧
        policy.allowsHosts (.untagged frame.src) dstHost = true ∧
        pinned? class_ frame carrier = some selector := by
  have pinned : ∀ carrier header,
      settings.criteria? class_ frame policy carrier header = some selector.criteria ↔
        (if frame.etherType = EtherType.ipv4 ∧ header.protocol = carrier.number then
          (pinnedTransport? carrier header.transport).map fun transport =>
            ⟨pinnedAddresses header ++ pinnedMacs class_ frame ++ transport⟩
        else none) = some selector := by
    intro carrier header
    obtain ⟨criteria⟩ := selector
    rw [Settings.criteria?, plain.transportCriteria?]
    simp only [Option.ite_none_right_eq_some, Option.map_eq_some_iff, Selector.mk.injEq]
    cases class_ <;>
      simp [Settings.addressCriteria, Settings.vlanCriteria, Settings.dscpCriteria,
        Settings.macCriteria, pinnedAddresses, pinnedMacs, plain.addresses, plain.vlan, plain.dscp,
        plain.dstMacOnly]
  simp only [Settings.selector?_eq_some_iff_criteria, pinned, pinned?, Option.bind_eq_bind,
    Option.bind_eq_some_iff]
  constructor
  · rintro ⟨carrier, hcarrier, header, hheader, allowed, h⟩
    exact ⟨carrier, hcarrier, allowed, header, hheader, h⟩
  · rintro ⟨carrier, hcarrier, allowed, header, hheader, h⟩
    exact ⟨carrier, hcarrier, header, hheader, allowed, h⟩

/-! ## The ends of a flow -/

namespace Scene

variable {scene : Scene} {policy : Policy} {ends ends' : Ends}

theorem Plain.pinned?_of_ends (plain : scene.settings.Plain)
    (h : scene.ends? class_ policy frame = some ends) :
    ∃ carrier, carrier? class_ policy.application = some carrier ∧
      policy.allowsHosts (.untagged frame.src) (filteredId class_ frame ends.dst) = true ∧
      pinned? class_ frame carrier = some ends.selector := by
  obtain ⟨-, -, -, -, hselector⟩ := ends?_eq_some_iff.1 h
  exact plain.selector?_eq_some_iff.1 hselector

theorem Plain.ends?_unique (plain : scene.settings.Plain) {policy' : Policy}
    (h : scene.ends? class_ policy frame = some ends)
    (h' : scene.ends? class_ policy' frame = some ends') : ends = ends' := by
  obtain ⟨carrier, -, -, pinned⟩ := Plain.pinned?_of_ends plain h
  obtain ⟨carrier', -, -, pinned'⟩ := Plain.pinned?_of_ends plain h'
  have selector := pinned?_unique pinned pinned'
  obtain ⟨header, hheader, hdst, hsrc, -⟩ := ends?_eq_some_iff.1 h
  obtain ⟨header', hheader', hdst', hsrc', -⟩ := ends?_eq_some_iff.1 h'
  obtain rfl : header = header' := Option.some.inj (hheader.symm.trans hheader')
  have dst := Option.some.inj (hdst.symm.trans hdst')
  have src := Option.some.inj (hsrc.symm.trans hsrc')
  obtain ⟨src₁, dst₁, selector₁⟩ := ends
  obtain ⟨src₂, dst₂, selector₂⟩ := ends'
  simp only at src dst selector
  rw [src, dst, selector]

/-- A policy that routes one frame routes every frame that its rules take, between the same ends. -/
theorem Plain.ends?_of_takes (plain : scene.settings.Plain) {port : UInt32}
    (h : scene.ends? class_ policy frame = some ends) (takes : ends.selector.Takes port other)
    (sources : ∀ header header', frame.ipv4? = some header → other.ipv4? = some header' →
      header'.src = header.src → other.src = frame.src) :
    scene.ends? class_ policy other = some ends ∧ SameFlow class_ frame other := by
  obtain ⟨carrier, hcarrier, allowed, pinned⟩ := Plain.pinned?_of_ends plain h
  obtain ⟨pinned', flow⟩ := pinned?_of_takes pinned takes
  obtain ⟨header, header', hheader, hheader', src, dst⟩ := flow.headers
  have mac := sources header header' hheader hheader' src
  obtain ⟨again, hagain, hdst, hsrc, -⟩ := ends?_eq_some_iff.1 h
  obtain rfl : header = again := Option.some.inj (hheader.symm.trans hagain)
  refine ⟨ends?_eq_some_iff.2 ⟨header', hheader', ?_, ?_, ?_⟩, flow⟩
  · cases class_ with
    | intra =>
        rw [← hdst, Directory.destination?, Directory.destination?, (flow.macs rfl).2]
    | inter =>
        rw [← hdst, Directory.destination?, Directory.destination?, dst]
  · cases class_ with
    | intra =>
        rw [← hsrc, Directory.source?, Directory.source?, mac]
    | inter =>
        rw [← hsrc, Directory.source?, Directory.source?, mac, src]
  · refine plain.selector?_eq_some_iff.2 ⟨carrier, hcarrier, ?_, pinned'⟩
    rw [mac]
    cases class_ with
    | intra =>
        rw [← allowed, filteredId, filteredId, (flow.macs rfl).2]
    | inter => exact allowed

end Scene

/-- The frames differ in nothing but their VLAN and their DSCP. -/
structure SameTraffic (frame other : Frame) : Prop where
  src : other.src = frame.src
  dst : other.dst = frame.dst
  type : other.etherType = frame.etherType
  headers : ∃ header header', frame.ipv4? = some header ∧ other.ipv4? = some header' ∧
    header'.src = header.src ∧ header'.dst = header.dst ∧
    header'.protocol = header.protocol ∧ header'.transport = header.transport

theorem headers_of_pinned? {class' : RouteClass} {carrier' : Carrier}
    (h : pinned? class_ frame carrier = some selector)
    (h' : pinned? class' other carrier' = some selector) :
    other.etherType = frame.etherType ∧
      ∃ header header', frame.ipv4? = some header ∧ other.ipv4? = some header' ∧
        header'.src = header.src ∧ header'.dst = header.dst ∧
        header'.protocol = header.protocol ∧ header'.transport = header.transport := by
  obtain ⟨header, transport, hheader, htype, hprotocol, htransport, hcriteria⟩ :=
    pinned?_eq_some_iff.1 h
  have holds : ∀ criterion ∈ pinnedAddresses header ++ pinnedMacs class_ frame ++ transport,
      criterion.Holds 0 other := by
    rw [hcriteria]
    exact takes_of_pinned? 0 h'
  rw [List.forall_mem_append, List.forall_mem_append] at holds
  obtain ⟨type, header', hheader', src, dst⟩ := (holds_pinnedAddresses_iff 0).1 holds.1.1
  obtain ⟨protocol, same_transport⟩ :=
    (holds_pinnedTransport?_iff 0 hheader' htransport).1 holds.2
  exact ⟨type.trans htype.symm, header, header', hheader, hheader', src, dst,
    protocol.trans hprotocol.symm, same_transport⟩

namespace SameTraffic

variable (same : SameTraffic frame other)

include same

theorem pinned?_eq (class_ : RouteClass) (carrier : Carrier) :
    pinned? class_ other carrier = pinned? class_ frame carrier := by
  obtain ⟨header, header', hheader, hheader', src, dst, protocol, transport⟩ := same.headers
  have macs : pinnedMacs class_ other = pinnedMacs class_ frame := by
    cases class_ <;> simp only [pinnedMacs, same.src, same.dst]
  simp only [pinned?, hheader, hheader', Option.bind_eq_bind, Option.bind_some, pinnedAddresses,
    same.type, src, dst, protocol, transport, macs]

theorem ends?_eq {scene : Scene} (plain : scene.settings.Plain) (class_ : RouteClass)
    (policy : Policy) : scene.ends? class_ policy other = scene.ends? class_ policy frame := by
  obtain ⟨header, header', hheader, hheader', src, dst, -, -⟩ := same.headers
  have selector : ∀ id, scene.settings.selector? class_ other policy id =
      scene.settings.selector? class_ frame policy id := by
    intro id
    refine Option.ext fun selector => ?_
    rw [plain.selector?_eq_some_iff, plain.selector?_eq_some_iff]
    simp only [same.pinned?_eq, same.src]
  cases class_ <;>
    simp only [Scene.ends?, hheader, hheader', Option.bind_eq_bind, Option.bind_some,
      Directory.destination?, Directory.source?, Scene.filteredId, same.src, same.dst, src, dst,
      selector]

theorem hops_eq {scene : Scene} (plain : scene.settings.Plain) (class_ : RouteClass)
    (policy : Policy) : scene.hops class_ policy other = scene.hops class_ policy frame := by
  simp only [Scene.hops, same.ends?_eq plain]

end SameTraffic

end PolicyRouting
