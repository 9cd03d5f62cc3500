import PolicyRouting.Proofs.Routing.CompletePath
import PolicyRouting.Proofs.Routing.Selectors

/-!
# What a selector captures

A selector is made for a packet of one application, and inside a region for a
packet between two hosts.  Two of its fields have no switch of their own.  The
protocol number is pinned along with the ports, or with the type and code of an
ICMP message, and the MAC addresses are pinned along with the IP addresses.  So
a selector keeps to the protocol of its application, and to the addresses of
its packet, exactly where that other switch is on; where it is off the selector
takes every protocol, or frames between any two addresses.
-/

namespace PolicyRouting

def Frame.carrying (frame : Frame) (header : Ipv4Header) (protocol : UInt8)
    (transport : Transport) : Frame :=
  { frame with payload := .ipv4 { header with protocol, transport } }

def Frame.between (frame : Frame) (src dst : Mac) : Frame := { frame with src, dst }

theorem Carrier.number_of_carrier? {class_ : RouteClass} {application : Application}
    {carrier : Carrier} (h : carrier? class_ application = some carrier) :
    carrier.number = application.protocol.number := by
  cases class_ <;> cases application <;> cases h <;> rfl

namespace Settings

variable {settings : Settings} {class_ : RouteClass} {frame : Frame} {policy : Policy}
  {dstHost : HostId} {selector : Selector} {header : Ipv4Header}

def matchesTransportOf (settings : Settings) : Application → Bool
  | .ping => settings.matchIcmp
  | .web | .ftp | .voip | .tftp | .videoStreaming => settings.matchPorts

theorem pinsTransport_of_carrier? {application : Application} {carrier : Carrier}
    (h : carrier? class_ application = some carrier) :
    settings.pinsTransport carrier = settings.matchesTransportOf application := by
  cases class_ <;> cases application <;> cases h <;> rfl

theorem takes_any_protocol (h : settings.selector? class_ frame policy dstHost = some selector)
    (hheader : frame.ipv4? = some header)
    (off : settings.matchesTransportOf policy.application = false) (port : UInt32)
    (protocol : UInt8) (transport : Transport) :
    selector.Takes port (frame.carrying header protocol transport) := by
  obtain ⟨carrier, again, -, hcarrier, hagain, -, htype, hprotocol, -, -⟩ :=
    selector?_eq_some_iff.1 h
  obtain rfl : header = again := Option.some.inj (hheader.symm.trans hagain)
  have unpinned : settings.pinsTransport carrier = false :=
    (pinsTransport_of_carrier? hcarrier).trans off
  have pins := settings.pinsTransport_iff hprotocol
  rw [unpinned] at pins
  have htype' : (frame.carrying header protocol transport).etherType = EtherType.ipv4 := htype
  refine (takes_iff_agrees h hheader htype' rfl).2
    { Agrees.refl settings class_ frame header with ports := ?_, icmp := ?_ }
  · exact fun on tcpOrUdp => absurd (pins.2 (.inl ⟨on, tcpOrUdp⟩)) Bool.false_ne_true
  · exact fun on icmp => absurd (pins.2 (.inr ⟨on, icmp⟩)) Bool.false_ne_true

/--
A selector takes IPv4 frames of no other protocol than its application's exactly where the switch
for the application's transport is on.
-/
theorem selector_keeps_protocol_iff
    (h : settings.selector? class_ frame policy dstHost = some selector) :
    (∀ port other header', other.etherType = EtherType.ipv4 → other.ipv4? = some header' →
        selector.Takes port other → header'.protocol = policy.application.protocol.number) ↔
      settings.matchesTransportOf policy.application = true := by
  obtain ⟨carrier, header, -, hcarrier, hheader, -, htype, hprotocol, -, -⟩ :=
    selector?_eq_some_iff.1 h
  rw [← Carrier.number_of_carrier? hcarrier, ← hprotocol]
  constructor
  · intro keeps
    cases on : settings.matchesTransportOf policy.application with
    | true => rfl
    | false =>
        -- no application has the protocol zero
        have zero : (0 : UInt8) = header.protocol :=
          keeps 0 (frame.carrying header 0 .other) _ htype rfl
            (takes_any_protocol h hheader on 0 0 .other)
        rw [hprotocol] at zero
        cases carrier <;> contradiction
  · intro on port other header' htype' hheader' takes
    have agrees := (takes_iff_agrees h hheader htype' hheader').1 takes
    rw [← pinsTransport_of_carrier? hcarrier, settings.pinsTransport_iff hprotocol] at on
    rcases on with ⟨ports, tcpOrUdp⟩ | ⟨fields, icmp⟩
    · exact (agrees.ports ports tcpOrUdp).1
    · exact (agrees.icmp fields icmp).1

theorem keenSelector_keeps_to_tcp :
    ∃ selector, keenSettings.selector? .intra voicedFrame campusPolicy
        (.untagged voicedFrame.dst) = some selector ∧
      ∀ port other header', other.etherType = EtherType.ipv4 → other.ipv4? = some header' →
        selector.Takes port other → header'.protocol = IpProtocol.tcp := by
  have made : (keenSettings.selector? .intra voicedFrame campusPolicy
      (.untagged voicedFrame.dst)).isSome = true := by decide
  obtain ⟨selector, hselector⟩ := Option.isSome_iff_exists.1 made
  exact ⟨selector, hselector, (selector_keeps_protocol_iff hselector).2 rfl⟩

def portlessSettings : Settings := { matchPorts := false }

def datagramFrame : Frame :=
  { voicedFrame with
    payload := .ipv4 ⟨⟨10, 0, 0, 1⟩, ⟨10, 0, 0, 2⟩, IpProtocol.udp, 46, .udp 5000 3784⟩ }

theorem portlessSelector_takes_datagram :
    campusPolicy.application.protocol.number = IpProtocol.tcp ∧
    datagramFrame.etherType = EtherType.ipv4 ∧
    datagramFrame.ipv4?.map (·.protocol) = some IpProtocol.udp ∧
    ∃ selector, portlessSettings.selector? .intra voicedFrame campusPolicy
        (.untagged voicedFrame.dst) = some selector ∧
      ∀ port, selector.Takes port datagramFrame := by
  have made : (portlessSettings.selector? .intra voicedFrame campusPolicy
      (.untagged voicedFrame.dst)).isSome = true := by decide
  obtain ⟨selector, hselector⟩ := Option.isSome_iff_exists.1 made
  refine ⟨rfl, rfl, rfl, selector, hselector, fun port => ?_⟩
  exact takes_any_protocol hselector rfl rfl port IpProtocol.udp (.udp 5000 3784)

end Settings

/-! ## The hosts of the packet -/

/--
The selector takes only frames that go where `frame` goes and, unless the destination is all that
the settings pin, come from where it comes from.
-/
def Selector.Anchored (selector : Selector) (settings : Settings) (frame : Frame) : Prop :=
  ∀ port other, selector.Takes port other →
    other.dst = frame.dst ∧ (settings.dstMacOnly = false → other.src = frame.src)

namespace Settings

variable {settings : Settings} {frame : Frame} {policy : Policy} {dstHost : HostId}
  {selector : Selector}

theorem takes_any_macs (h : settings.selector? .intra frame policy dstHost = some selector)
    (off : settings.matchAddresses = false) (port : UInt32) (src dst : Mac) :
    selector.Takes port (frame.between src dst) := by
  obtain ⟨carrier, header, -, -, hheader, -, htype, -, -, -⟩ := selector?_eq_some_iff.1 h
  have htype' : (frame.between src dst).etherType = EtherType.ipv4 := htype
  have hheader' : (frame.between src dst).ipv4? = some header := hheader
  refine (takes_iff_agrees h hheader htype' hheader').2
    { Agrees.refl settings .intra frame header with dstMac := ?_, srcMac := ?_ }
  · exact fun on => absurd (off.symm.trans on) Bool.false_ne_true
  · exact fun on => absurd (off.symm.trans on) Bool.false_ne_true

theorem mem_criteria_of_mem_macCriteria {class_ : RouteClass} {criterion : Criterion}
    (h : settings.selector? class_ frame policy dstHost = some selector)
    (on : settings.matchAddresses = true) (hmac : criterion ∈ settings.macCriteria class_ frame) :
    criterion ∈ selector.criteria := by
  obtain ⟨_, header, _, -, -, -, -, -, -, hcriteria⟩ := selector?_eq_some_iff.1 h
  rw [hcriteria, addressCriteria, if_pos on]
  simp [hmac]

theorem anchored_iff (h : settings.selector? .intra frame policy dstHost = some selector) :
    selector.Anchored settings frame ↔ settings.matchAddresses = true := by
  constructor
  · intro anchored
    cases on : settings.matchAddresses with
    | true => rfl
    | false =>
        have goes : ∀ dst : Mac, dst = frame.dst := fun dst =>
          (anchored 0 _ (takes_any_macs h on 0 frame.src dst)).1
        have same : (⟨0, 0, 0, 0, 0, 0⟩ : Mac) = ⟨0, 0, 0, 0, 0, 1⟩ := (goes _).trans (goes _).symm
        contradiction
  · intro on port other takes
    have pinned : ∀ criterion ∈ settings.macCriteria .intra frame, criterion.Holds port other :=
      fun criterion hmac => takes criterion (mem_criteria_of_mem_macCriteria h on hmac)
    constructor
    · exact pinned (.ethDst frame.dst) (by simp [macCriteria])
    · intro bothMacs
      exact pinned (.ethSrc frame.src) (by simp [macCriteria, bothMacs])

end Settings

namespace Scene

variable {scene : Scene} {class_ : RouteClass} {policy : Policy} {frame : Frame}

theorem exists_selector?_of_mem_installs {install : Register.Install}
    (h : install ∈ scene.installs class_ policy frame) :
    ∃ dstHost, scene.settings.selector? class_ frame policy dstHost =
      some install.rule.selector := by
  obtain ⟨hop, hhop, rfl⟩ := List.mem_map.1 h
  rcases hops_cases scene class_ policy frame with
    none_written | ⟨ends, links, -, hends, -, along⟩
  · rw [none_written] at hhop
    contradiction
  · rw [along] at hhop
    obtain ⟨device, treatment, made⟩ := RuleTemplate.exists_of_mem_hops hhop
    obtain ⟨header, -, -, -, hselector⟩ := ends?_eq_some_iff.1 hends
    rw [made]
    exact ⟨_, hselector⟩

/--
Inside a region a selector is anchored to the hosts of its packet exactly where IP addresses are
matched, and so is every rule that routing the packet writes.
-/
theorem intra_rules_anchored_iff (scene : Scene) (policy : Policy) (frame : Frame) :
    (∀ dstHost selector, scene.settings.selector? .intra frame policy dstHost = some selector →
      (selector.Anchored scene.settings frame ↔ scene.settings.matchAddresses = true)) ∧
    (scene.route .intra policy frame).2.register =
      scene.register.installAll (scene.installs .intra policy frame) ∧
    ∀ install ∈ scene.installs .intra policy frame,
      install.rule.selector.Anchored scene.settings frame ↔
        scene.settings.matchAddresses = true := by
  refine ⟨fun _ _ => Settings.anchored_iff, register_route scene .intra policy frame, ?_⟩
  intro install h
  obtain ⟨dstHost, hselector⟩ := exists_selector?_of_mem_installs h
  exact Settings.anchored_iff hselector

end Scene

def unaddressedScene : Scene :=
  { lineScene with
    settings := { matchAddresses := false }
    register := Register.empty.add campusPolicy }

def misdirectedFrame : Frame :=
  Settings.voicedFrame.between Settings.voicedFrame.src ⟨2, 0, 0, 0, 0, 9⟩

/-- The last device sends what is meant for someone else to the host of the routed packet. -/
theorem unaddressedRule_takes_misdirected :
    (unaddressedScene.route .intra campusPolicy Settings.voicedFrame).1 = .installed 3 true ∧
    misdirectedFrame.dst ≠ Settings.voicedFrame.dst ∧
    ∃ install ∈ unaddressedScene.installs .intra campusPolicy Settings.voicedFrame,
      install.rule.device = eastHost.location.device ∧
      install.rule.treatment.outputPort? = some eastHost.location.port ∧
      ∀ port, install.rule.selector.Takes port misdirectedFrame := by
  have installed : (unaddressedScene.route .intra campusPolicy Settings.voicedFrame).1 =
      .installed 3 true := by decide +kernel
  have last : ∃ install ∈ unaddressedScene.installs .intra campusPolicy Settings.voicedFrame,
      install.rule.device = eastHost.location.device ∧
      install.rule.treatment.outputPort? = some eastHost.location.port := by decide +kernel
  obtain ⟨install, hinstall, device, output⟩ := last
  obtain ⟨dstHost, hselector⟩ := Scene.exists_selector?_of_mem_installs hinstall
  exact ⟨installed, by decide, install, hinstall, device, output,
    fun port => Settings.takes_any_macs hselector rfl port _ _⟩

end PolicyRouting
