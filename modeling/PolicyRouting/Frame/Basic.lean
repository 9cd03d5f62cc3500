import PolicyRouting.Address.Ipv4
import PolicyRouting.Address.Mac

/-!
# Ethernet frames

The headers that routing looks at: the Ethernet header with at most one VLAN
tag, an ARP message, or an IPv4 header with the first bytes of its transport
header.  What a frame carries beyond these is not represented.
-/

namespace PolicyRouting

namespace EtherType

def ipv4 : UInt16 := 0x0800
def arp : UInt16 := 0x0806
def vlan : UInt16 := 0x8100
def lldp : UInt16 := 0x88CC
def bsn : UInt16 := 0x8942

end EtherType

namespace IpProtocol

def icmp : UInt8 := 1
def tcp : UInt8 := 6
def udp : UInt8 := 17

end IpProtocol

inductive Transport where
  | tcp (srcPort dstPort : UInt16)
  | udp (srcPort dstPort : UInt16)
  | icmp (type code : UInt8)
  /-- Another protocol, or a header cut short. -/
  | other
  deriving DecidableEq, Repr, Inhabited

structure Ipv4Header where
  src : Ipv4
  dst : Ipv4
  protocol : UInt8
  dscp : UInt8
  transport : Transport
  deriving DecidableEq, Repr, Inhabited

structure Arp where
  opcode : UInt16
  senderMac : Mac
  senderIp : Ipv4
  targetMac : Mac
  targetIp : Ipv4
  deriving DecidableEq, Repr, Inhabited

namespace Arp

def requestCode : UInt16 := 1
def replyCode : UInt16 := 2

def isRequest (arp : Arp) : Bool := arp.opcode = requestCode

def answer (arp : Arp) (mac : Mac) : Arp where
  opcode := replyCode
  senderMac := mac
  senderIp := arp.targetIp
  targetMac := arp.senderMac
  targetIp := arp.senderIp

end Arp

inductive Payload where
  | ipv4 (header : Ipv4Header)
  | arp (message : Arp)
  /-- Another type, or a body that does not decode. -/
  | unparsed
  deriving DecidableEq, Repr, Inhabited

structure Frame where
  dst : Mac
  src : Mac
  vlan : Option UInt16
  etherType : UInt16
  payload : Payload
  deriving DecidableEq, Repr, Inhabited

namespace Frame

def isControl (frame : Frame) : Bool :=
  frame.etherType = EtherType.lldp || frame.etherType = EtherType.bsn

def ipv4? (frame : Frame) : Option Ipv4Header :=
  match frame.payload with
  | .ipv4 header => some header
  | _ => none

def arp? (frame : Frame) : Option Arp :=
  match frame.payload with
  | .arp message => some message
  | _ => none

end Frame

end PolicyRouting
