import PolicyRouting.Frame.Writer

/-!
# Frames that are written and read

What an envelope writes is read as the frame that has its fields, with the VLAN
cut to twelve bits and the DSCP to six.  Reading says more about a frame than
its type does: its VLAN and DSCP are within these bounds, and its payload is of
the type, and its transport of the protocol, that the headers name.  So a frame
that was decoded down to its transport, from whatever bytes, is read again from
the bytes that its fields are written to.
-/

namespace PolicyRouting

@[simp] theorem word_highByte_lowByte (w : UInt16) : word (highByte w) (lowByte w) = w := by
  have bound := w.toNat_lt
  have high : (highByte w).toNat = w.toNat / 256 := by
    simp only [highByte, UInt8.toNat_ofNat']
    omega
  have low : (lowByte w).toNat = w.toNat % 256 := by
    simp only [lowByte, UInt8.toNat_ofNat']
  apply UInt16.toNat_inj.1
  rw [word, high, low, UInt16.toNat_ofNat']
  omega

theorem and_vlanMask (v : UInt16) : v &&& Frame.vlanMask = v % 4096 := by
  apply UInt16.toNat_inj.1
  rw [UInt16.toNat_and, UInt16.toNat_mod]
  exact Nat.and_two_pow_sub_one_eq_mod v.toNat 12

theorem and_dscpMask (d : UInt8) : d &&& 0x3f = d % 64 := by
  apply UInt8.toNat_inj.1
  rw [UInt8.toNat_and, UInt8.toNat_mod]
  exact Nat.and_two_pow_sub_one_eq_mod d.toNat 6

theorem shiftLeft_shiftRight_dscp (d : UInt8) : d <<< 2 >>> 2 = d % 64 := by
  apply UInt8.toNat_inj.1
  simp only [UInt8.toNat_shiftRight, UInt8.toNat_shiftLeft, UInt8.toNat_mod, UInt8.reduceToNat,
    Nat.reduceMod, Nat.shiftLeft_eq, Nat.shiftRight_eq_div_pow, Nat.reducePow]
  omega

theorem shiftRight_dscp_mod (tos : UInt8) : (tos >>> 2) % (64 : UInt8) = tos >>> 2 := by
  have bound := tos.toNat_lt
  apply UInt8.toNat_inj.1
  simp only [UInt8.toNat_shiftRight, UInt8.toNat_mod, UInt8.reduceToNat, Nat.reduceMod,
    Nat.shiftRight_eq_div_pow, Nat.reducePow]
  omega

theorem mod_vlan_mod (v : UInt16) : v % 4096 % 4096 = v % 4096 := by
  apply UInt16.toNat_inj.1
  simp only [UInt16.toNat_mod, UInt16.reduceToNat, Nat.mod_mod]

theorem mod_dscp_mod (d : UInt8) : d % 64 % 64 = d % 64 := by
  apply UInt8.toNat_inj.1
  simp only [UInt8.toNat_mod, UInt8.reduceToNat, Nat.mod_mod]

/-! ## Reading what was written -/

namespace Envelope

def marked (src dst : Mac) (vlan : Option UInt16) (dscp : Option UInt8) : Envelope :=
  let tagged := match vlan with
    | none => between src dst
    | some v => (between src dst).withVlan v
  match dscp with
  | none => tagged
  | some d => tagged.withDscp d

def frame (envelope : Envelope) (etherType : UInt16) (payload : Payload) : Frame where
  dst := envelope.dst
  src := envelope.src
  vlan := envelope.vlan.map (· % 4096)
  etherType := etherType
  payload := payload

theorem frame_marked (src dst : Mac) (vlan : Option UInt16) (dscp : Option UInt8)
    (etherType : UInt16) (payload : Payload) :
    (marked src dst vlan dscp).frame etherType payload =
      ⟨dst, src, vlan.map (· % 4096), etherType, payload⟩ := by
  rcases vlan with - | v <;> rcases dscp with - | d <;>
    simp [marked, frame, between, withVlan, withDscp, and_vlanMask, mod_vlan_mod]

theorem dscp_marked (src dst : Mac) (vlan : Option UInt16) (dscp : Option UInt8) :
    (marked src dst vlan dscp).dscp = dscp.getD 0 % 64 := by
  rcases vlan with - | v <;> rcases dscp with - | d <;>
    simp [marked, between, withVlan, withDscp, and_dscpMask]

variable (envelope : Envelope)

theorem ofBytes?_raw {etherType : UInt16} (untagged : etherType ≠ EtherType.vlan) (body : Bytes) :
    Frame.ofBytes? (envelope.raw etherType body) =
      some (envelope.frame etherType (Payload.ofBytes etherType body)) := by
  obtain ⟨src, dst, vlan, dscp⟩ := envelope
  cases vlan with
  | none =>
      simp [raw, header, tagBytes, Mac.octets, wordBytes, Frame.ofBytes?, frame, untagged]
  | some v =>
      simp [raw, header, tagBytes, Mac.octets, wordBytes, Frame.ofBytes?, frame, and_vlanMask]

theorem ofBytes?_ipv4Body (dscp : UInt8) (src dst : Ipv4) (protocol : UInt8) (content : Bytes) :
    Ipv4Header.ofBytes? (ipv4Body dscp src dst protocol content) =
      some ⟨src, dst, protocol, dscp % 64, Transport.ofBytes protocol content⟩ := by
  simp [ipv4Body, Ipv4Header.ofBytes?, Ipv4Header.lengthOf, wordBytes, Ipv4.octets,
    shiftLeft_shiftRight_dscp]

theorem ofBytes?_ipv4 (src dst : Ipv4) (protocol : UInt8) (content : Bytes) :
    Frame.ofBytes? (envelope.ipv4 src dst protocol content) =
      some (envelope.frame EtherType.ipv4
        (.ipv4 ⟨src, dst, protocol, envelope.dscp % 64, Transport.ofBytes protocol content⟩)) := by
  rw [ipv4, ofBytes?_raw envelope (by decide), Payload.ofBytes, if_pos rfl, ofBytes?_ipv4Body]

theorem ofBytes?_tcp (src dst : Ipv4) (srcPort dstPort : UInt16) :
    Frame.ofBytes? (envelope.tcp src dst srcPort dstPort) =
      some (envelope.frame EtherType.ipv4
        (.ipv4 ⟨src, dst, IpProtocol.tcp, envelope.dscp % 64, .tcp srcPort dstPort⟩)) := by
  rw [tcp, ofBytes?_ipv4]
  simp [Transport.ofBytes, wordBytes]

theorem ofBytes?_udp (src dst : Ipv4) (srcPort dstPort : UInt16) :
    Frame.ofBytes? (envelope.udp src dst srcPort dstPort) =
      some (envelope.frame EtherType.ipv4
        (.ipv4 ⟨src, dst, IpProtocol.udp, envelope.dscp % 64, .udp srcPort dstPort⟩)) := by
  have distinct : IpProtocol.udp ≠ IpProtocol.tcp := by decide
  rw [udp, ofBytes?_ipv4]
  simp [Transport.ofBytes, wordBytes, distinct]

theorem ofBytes?_icmp (src dst : Ipv4) (type code : UInt8) :
    Frame.ofBytes? (envelope.icmp src dst type code) =
      some (envelope.frame EtherType.ipv4
        (.ipv4 ⟨src, dst, IpProtocol.icmp, envelope.dscp % 64, .icmp type code⟩)) := by
  rw [icmp, ofBytes?_ipv4, Transport.ofBytes, if_neg (by decide), if_neg (by decide), if_pos rfl]

theorem ofBytes?_arpBody (message : Arp) : Arp.ofBytes? (arpBody message) = some message := by
  have hardware : word (highByte 1) (lowByte 1) = 1 := word_highByte_lowByte 1
  simp [arpBody, Arp.ofBytes?, wordBytes, Mac.octets, Ipv4.octets]

theorem ofBytes?_arp (message : Arp) :
    Frame.ofBytes? (envelope.arp message) = some (envelope.frame EtherType.arp (.arp message)) := by
  rw [arp, ofBytes?_raw envelope (by decide), Payload.ofBytes, if_neg (by decide), if_pos rfl,
    ofBytes?_arpBody]

end Envelope

/-! ## Writing what was read -/

def Transport.Of (protocol : UInt8) : Transport → Prop
  | .tcp _ _ => protocol = IpProtocol.tcp
  | .udp _ _ => protocol = IpProtocol.udp
  | .icmp _ _ => protocol = IpProtocol.icmp
  | .other => True

theorem Transport.ofBytes_of (protocol : UInt8) (body : Bytes) :
    (Transport.ofBytes protocol body).Of protocol := by
  unfold ofBytes
  split
  · split <;> simp_all [Of]
  · split
    · split <;> simp_all [Of]
    · split
      · split <;> simp_all [Of]
      · trivial

/-- The payload is what its type says, and its DSCP has six bits. -/
def Payload.Of (etherType : UInt16) : Payload → Prop
  | .ipv4 header =>
      etherType = EtherType.ipv4 ∧ header.dscp % 64 = header.dscp ∧
        header.transport.Of header.protocol
  | .arp _ => etherType = EtherType.arp
  | .unparsed => True

theorem Ipv4Header.of_ofBytes? {body : Bytes} {header : Ipv4Header}
    (h : ofBytes? body = some header) :
    header.dscp % 64 = header.dscp ∧ header.transport.Of header.protocol := by
  unfold ofBytes? at h
  split at h
  · simp only [Option.ite_none_right_eq_some, Option.some.injEq] at h
    obtain ⟨-, rfl⟩ := h
    exact ⟨shiftRight_dscp_mod _, Transport.ofBytes_of _ _⟩
  · contradiction

theorem Payload.ofBytes_of (etherType : UInt16) (body : Bytes) :
    (Payload.ofBytes etherType body).Of etherType := by
  unfold ofBytes
  split
  · split
    · exact ⟨‹_›, Ipv4Header.of_ofBytes? ‹_›⟩
    · trivial
  · split
    · split
      · assumption
      · trivial
    · trivial

namespace Frame

structure Normal (frame : Frame) : Prop where
  vlan : frame.vlan.map (· % 4096) = frame.vlan
  payload : frame.payload.Of frame.etherType

theorem normal_of_ofBytes? {data : Bytes} {frame : Frame} (h : ofBytes? data = some frame) :
    frame.Normal := by
  unfold ofBytes? at h
  split at h
  · simp only at h
    split at h
    · split at h
      · obtain rfl := Option.some.inj h
        refine ⟨?_, Payload.ofBytes_of _ _⟩
        simp only [Option.map_some, and_vlanMask, mod_vlan_mod]
      · contradiction
    · obtain rfl := Option.some.inj h
      exact ⟨rfl, Payload.ofBytes_of _ _⟩
  · contradiction

/-- Decoded down to a transport that is known, or to an ARP message. -/
def IsDecoded (frame : Frame) : Prop :=
  match frame.payload with
  | .ipv4 header => header.transport ≠ .other
  | .arp _ => True
  | .unparsed => False

def rebuilt? (frame : Frame) : Option Bytes :=
  match frame.payload with
  | .ipv4 header =>
      let envelope := Envelope.marked frame.src frame.dst frame.vlan (some header.dscp)
      match header.transport with
      | .tcp srcPort dstPort => some (envelope.tcp header.src header.dst srcPort dstPort)
      | .udp srcPort dstPort => some (envelope.udp header.src header.dst srcPort dstPort)
      | .icmp type code => some (envelope.icmp header.src header.dst type code)
      | .other => none
  | .arp message => some ((Envelope.marked frame.src frame.dst frame.vlan none).arp message)
  | .unparsed => none

theorem Normal.frame_marked {frame : Frame} (normal : frame.Normal) (dscp : Option UInt8) :
    (Envelope.marked frame.src frame.dst frame.vlan dscp).frame frame.etherType frame.payload =
      frame := by
  rw [Envelope.frame_marked, normal.vlan]

theorem Normal.ofBytes?_rebuilt? {frame : Frame} (normal : frame.Normal)
    (decoded : frame.IsDecoded) :
    ∃ bytes, frame.rebuilt? = some bytes ∧ ofBytes? bytes = some frame := by
  have whole := normal.frame_marked
  have payload := normal.payload
  obtain ⟨dst, src, vlan, etherType, content⟩ := frame
  cases content with
  | unparsed => exact absurd decoded id
  | arp message =>
      obtain rfl : etherType = EtherType.arp := payload
      refine ⟨_, rfl, ?_⟩
      rw [Envelope.ofBytes?_arp, whole none]
  | ipv4 header =>
      obtain ⟨ipSrc, ipDst, protocol, dscp, transport⟩ := header
      obtain ⟨rfl, six, kind⟩ := payload
      have kept : (Envelope.marked src dst vlan (some dscp)).dscp % 64 = dscp := by
        rw [Envelope.dscp_marked, mod_dscp_mod]
        exact six
      cases transport with
      | tcp srcPort dstPort =>
          obtain rfl : protocol = IpProtocol.tcp := kind
          refine ⟨_, rfl, ?_⟩
          rw [Envelope.ofBytes?_tcp, kept, whole (some dscp)]
      | udp srcPort dstPort =>
          obtain rfl : protocol = IpProtocol.udp := kind
          refine ⟨_, rfl, ?_⟩
          rw [Envelope.ofBytes?_udp, kept, whole (some dscp)]
      | icmp type code =>
          obtain rfl : protocol = IpProtocol.icmp := kind
          refine ⟨_, rfl, ?_⟩
          rw [Envelope.ofBytes?_icmp, kept, whole (some dscp)]
      | other => exact absurd rfl decoded

/--
Frames of the four kinds are read with the fields they were written with, the VLAN modulo 2^12 and
the DSCP modulo 2^6.  Conversely, whatever bytes a decoded frame was read from, it is written to
bytes that read as the same frame.
-/
theorem written_and_read :
    (∀ src dst vlan dscp ipSrc ipDst srcPort dstPort,
      ofBytes? ((Envelope.marked src dst vlan dscp).tcp ipSrc ipDst srcPort dstPort) =
        some ⟨dst, src, vlan.map (· % 4096), EtherType.ipv4,
          .ipv4 ⟨ipSrc, ipDst, IpProtocol.tcp, dscp.getD 0 % 64, .tcp srcPort dstPort⟩⟩) ∧
    (∀ src dst vlan dscp ipSrc ipDst srcPort dstPort,
      ofBytes? ((Envelope.marked src dst vlan dscp).udp ipSrc ipDst srcPort dstPort) =
        some ⟨dst, src, vlan.map (· % 4096), EtherType.ipv4,
          .ipv4 ⟨ipSrc, ipDst, IpProtocol.udp, dscp.getD 0 % 64, .udp srcPort dstPort⟩⟩) ∧
    (∀ src dst vlan dscp ipSrc ipDst type code,
      ofBytes? ((Envelope.marked src dst vlan dscp).icmp ipSrc ipDst type code) =
        some ⟨dst, src, vlan.map (· % 4096), EtherType.ipv4,
          .ipv4 ⟨ipSrc, ipDst, IpProtocol.icmp, dscp.getD 0 % 64, .icmp type code⟩⟩) ∧
    (∀ src dst vlan dscp message,
      ofBytes? ((Envelope.marked src dst vlan dscp).arp message) =
        some ⟨dst, src, vlan.map (· % 4096), EtherType.arp, .arp message⟩) ∧
    (∀ data frame, ofBytes? data = some frame → frame.IsDecoded →
      ∃ bytes, frame.rebuilt? = some bytes ∧ ofBytes? bytes = some frame) := by
  refine ⟨?_, ?_, ?_, ?_, fun data frame h decoded =>
    (normal_of_ofBytes? h).ofBytes?_rebuilt? decoded⟩
  · intro src dst vlan dscp ipSrc ipDst srcPort dstPort
    rw [Envelope.ofBytes?_tcp, Envelope.frame_marked, Envelope.dscp_marked, mod_dscp_mod]
  · intro src dst vlan dscp ipSrc ipDst srcPort dstPort
    rw [Envelope.ofBytes?_udp, Envelope.frame_marked, Envelope.dscp_marked, mod_dscp_mod]
  · intro src dst vlan dscp ipSrc ipDst type code
    rw [Envelope.ofBytes?_icmp, Envelope.frame_marked, Envelope.dscp_marked, mod_dscp_mod]
  · intro src dst vlan dscp message
    rw [Envelope.ofBytes?_arp, Envelope.frame_marked]

def optionedPacket : Bytes :=
  [2, 0, 0, 0, 0, 2, 2, 0, 0, 0, 0, 1, 0x81, 0, 0x60, 42, 8, 0,
   0x46, 0xbb, 0, 34, 0, 0, 0, 0, 64, 17, 0, 0, 10, 0, 0, 1, 10, 0, 1, 1, 1, 1, 1, 0,
   0x13, 0xc4, 0x0e, 0xc8, 0, 10, 0, 0, 0xff, 0xff]

def optionedFrame : Frame where
  dst := ⟨2, 0, 0, 0, 0, 2⟩
  src := ⟨2, 0, 0, 0, 0, 1⟩
  vlan := some 42
  etherType := EtherType.ipv4
  payload := .ipv4 ⟨⟨10, 0, 0, 1⟩, ⟨10, 0, 1, 1⟩, IpProtocol.udp, 46, .udp 5060 3784⟩

theorem optionedPacket_written_again :
    ofBytes? optionedPacket = some optionedFrame ∧ optionedFrame.IsDecoded ∧
      ∃ bytes, optionedFrame.rebuilt? = some bytes ∧ ofBytes? bytes = some optionedFrame := by
  have read : ofBytes? optionedPacket = some optionedFrame := by decide +kernel
  have decoded : optionedFrame.IsDecoded := fun h => Transport.noConfusion h
  exact ⟨read, decoded, written_and_read.2.2.2.2 optionedPacket optionedFrame read decoded⟩

end Frame

end PolicyRouting
