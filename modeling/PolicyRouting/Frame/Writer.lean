import PolicyRouting.Frame.Reader

/-!
# Writing frames

An envelope holds what all frames to be written share; one function for each
kind of content writes the bytes.  Checksums and identification are zero, the
header has no options, and a transport header carries no data.
-/

namespace PolicyRouting

def highByte (w : UInt16) : UInt8 := UInt8.ofNat (w.toNat / 256)

def lowByte (w : UInt16) : UInt8 := UInt8.ofNat w.toNat

def wordBytes (w : UInt16) : Bytes := [highByte w, lowByte w]

structure Envelope where
  src : Mac
  dst : Mac
  vlan : Option UInt16
  dscp : UInt8
  deriving DecidableEq, Repr

namespace Envelope

def between (src dst : Mac) : Envelope := ⟨src, dst, none, 0⟩

/-- Tags the frame with the low twelve bits of the number. -/
def withVlan (envelope : Envelope) (vlan : UInt16) : Envelope :=
  { envelope with vlan := some (vlan &&& Frame.vlanMask) }

/-- Marks the frame with the low six bits of the number. -/
def withDscp (envelope : Envelope) (dscp : UInt8) : Envelope :=
  { envelope with dscp := dscp &&& 0x3f }

def tagBytes : Option UInt16 → Bytes
  | none => []
  | some vlan => wordBytes EtherType.vlan ++ wordBytes vlan

def header (envelope : Envelope) (etherType : UInt16) : Bytes :=
  envelope.dst.octets ++ envelope.src.octets ++ tagBytes envelope.vlan ++ wordBytes etherType

def raw (envelope : Envelope) (etherType : UInt16) (body : Bytes) : Bytes :=
  envelope.header etherType ++ body

def ipv4Body (dscp : UInt8) (src dst : Ipv4) (protocol : UInt8) (content : Bytes) : Bytes :=
  ([0x45, dscp <<< 2] : Bytes) ++ wordBytes (UInt16.ofNat (20 + content.length))
    ++ [0, 0, 0, 0, 64, protocol, 0, 0] ++ src.octets ++ dst.octets ++ content

def ipv4 (envelope : Envelope) (src dst : Ipv4) (protocol : UInt8) (content : Bytes) : Bytes :=
  envelope.raw EtherType.ipv4 (ipv4Body envelope.dscp src dst protocol content)

def tcp (envelope : Envelope) (src dst : Ipv4) (srcPort dstPort : UInt16) : Bytes :=
  envelope.ipv4 src dst IpProtocol.tcp
    (wordBytes srcPort ++ wordBytes dstPort ++ [0, 0, 0, 0, 0, 0, 0, 0, 0x50, 0, 0, 0, 0, 0, 0, 0])

def udp (envelope : Envelope) (src dst : Ipv4) (srcPort dstPort : UInt16) : Bytes :=
  envelope.ipv4 src dst IpProtocol.udp
    (wordBytes srcPort ++ wordBytes dstPort ++ wordBytes 8 ++ [0, 0])

def icmp (envelope : Envelope) (src dst : Ipv4) (type code : UInt8) : Bytes :=
  envelope.ipv4 src dst IpProtocol.icmp [type, code, 0, 0, 0, 0, 0, 0]

def arpBody (message : Arp) : Bytes :=
  wordBytes 1 ++ wordBytes EtherType.ipv4 ++ [6, 4] ++ wordBytes message.opcode
    ++ message.senderMac.octets ++ message.senderIp.octets
    ++ message.targetMac.octets ++ message.targetIp.octets

def arp (envelope : Envelope) (message : Arp) : Bytes :=
  envelope.raw EtherType.arp (arpBody message)

end Envelope

def Arp.replyFrame (message : Arp) (mac : Mac) (vlan : Option UInt16) : Bytes :=
  let envelope := Envelope.between mac message.senderMac
  let tagged := match vlan with
    | none => envelope
    | some v => envelope.withVlan v
  tagged.arp (message.answer mac)

end PolicyRouting
