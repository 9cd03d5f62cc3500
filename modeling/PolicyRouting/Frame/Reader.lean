import PolicyRouting.Frame.Basic

/-!
# Reading frames

`Frame.ofBytes?` fails only where the Ethernet header, with its tag if it has
one, is cut short.  A body that does not decode leaves the payload unparsed.
Numbers are big endian.
-/

namespace PolicyRouting

abbrev Bytes := List UInt8

def word (high low : UInt8) : UInt16 := UInt16.ofNat (256 * high.toNat + low.toNat)

namespace Transport

def ofBytes (protocol : UInt8) (body : Bytes) : Transport :=
  if protocol = IpProtocol.tcp then
    match body with
    | a :: b :: c :: d :: _ => tcp (word a b) (word c d)
    | _ => other
  else if protocol = IpProtocol.udp then
    match body with
    | a :: b :: c :: d :: _ => udp (word a b) (word c d)
    | _ => other
  else if protocol = IpProtocol.icmp then
    match body with
    | type :: code :: _ => icmp type code
    | _ => other
  else other

end Transport

namespace Ipv4Header

def lengthOf (first : UInt8) : Nat := 4 * (first.toNat % 16)

/-- Version four, at least twenty header bytes, and all of them present. -/
def ofBytes? (data : Bytes) : Option Ipv4Header :=
  match data with
  | first :: tos :: _ :: _ :: _ :: _ :: _ :: _ :: _ :: protocol :: _ :: _ ::
      s0 :: s1 :: s2 :: s3 :: d0 :: d1 :: d2 :: d3 :: _ =>
      let length := lengthOf first
      if first.toNat / 16 = 4 ∧ 20 ≤ length ∧ length ≤ data.length then
        some
          { src := ⟨s0, s1, s2, s3⟩
            dst := ⟨d0, d1, d2, d3⟩
            protocol
            dscp := tos >>> 2
            transport := Transport.ofBytes protocol (data.drop length) }
      else none
  | _ => none

end Ipv4Header

namespace Arp

def ofBytes? (data : Bytes) : Option Arp :=
  match data with
  | h0 :: h1 :: p0 :: p1 :: hardwareLength :: protocolLength :: o0 :: o1 ::
      s0 :: s1 :: s2 :: s3 :: s4 :: s5 :: i0 :: i1 :: i2 :: i3 ::
      t0 :: t1 :: t2 :: t3 :: t4 :: t5 :: j0 :: j1 :: j2 :: j3 :: _ =>
      if word h0 h1 = 1 ∧ word p0 p1 = EtherType.ipv4 ∧ hardwareLength = 6 ∧ protocolLength = 4 then
        some
          { opcode := word o0 o1
            senderMac := ⟨s0, s1, s2, s3, s4, s5⟩
            senderIp := ⟨i0, i1, i2, i3⟩
            targetMac := ⟨t0, t1, t2, t3, t4, t5⟩
            targetIp := ⟨j0, j1, j2, j3⟩ }
      else none
  | _ => none

end Arp

def Payload.ofBytes (etherType : UInt16) (body : Bytes) : Payload :=
  if etherType = EtherType.ipv4 then
    match Ipv4Header.ofBytes? body with
    | some header => .ipv4 header
    | none => .unparsed
  else if etherType = EtherType.arp then
    match Arp.ofBytes? body with
    | some message => .arp message
    | none => .unparsed
  else .unparsed

namespace Frame

/-- A VLAN id is the low twelve bits of its tag. -/
def vlanMask : UInt16 := 0x0fff

def ofBytes? (data : Bytes) : Option Frame :=
  match data with
  | d0 :: d1 :: d2 :: d3 :: d4 :: d5 :: s0 :: s1 :: s2 :: s3 :: s4 :: s5 :: e0 :: e1 :: body =>
      let dst : Mac := ⟨d0, d1, d2, d3, d4, d5⟩
      let src : Mac := ⟨s0, s1, s2, s3, s4, s5⟩
      if word e0 e1 = EtherType.vlan then
        match body with
        | v0 :: v1 :: f0 :: f1 :: body =>
            some ⟨dst, src, some (word v0 v1 &&& vlanMask), word f0 f1,
              Payload.ofBytes (word f0 f1) body⟩
        | _ => none
      else some ⟨dst, src, none, word e0 e1, Payload.ofBytes (word e0 e1) body⟩
  | _ => none

end Frame

end PolicyRouting
