import PolicyRouting.Address.Mac
import PolicyRouting.Address.Network
import PolicyRouting.Frame.Basic

/-!
# Match criteria

A criterion tests one field of a packet; a selector is a list of criteria that
must all hold, so the empty selector takes every packet.  Adding a criterion
removes an earlier one of the same kind.
-/

namespace PolicyRouting

inductive Criterion where
  | inPort (port : UInt32)
  | ethType (type : UInt16)
  | ethSrc (mac : Mac)
  | ethDst (mac : Mac)
  | vlanId (vlan : UInt16)
  | ipDscp (dscp : UInt8)
  | ipProto (protocol : UInt8)
  | ipv4Src (net : Ipv4Net)
  | ipv4Dst (net : Ipv4Net)
  | tcpSrc (port : UInt16)
  | tcpDst (port : UInt16)
  | udpSrc (port : UInt16)
  | udpDst (port : UInt16)
  | icmpType (type : UInt8)
  | icmpCode (code : UInt8)
  deriving DecidableEq, Repr

namespace Criterion

def kind : Criterion → Fin 15
  | inPort _ => 0
  | ethType _ => 1
  | ethSrc _ => 2
  | ethDst _ => 3
  | vlanId _ => 4
  | ipDscp _ => 5
  | ipProto _ => 6
  | ipv4Src _ => 7
  | ipv4Dst _ => 8
  | tcpSrc _ => 9
  | tcpDst _ => 10
  | udpSrc _ => 11
  | udpDst _ => 12
  | icmpType _ => 13
  | icmpCode _ => 14

end Criterion

structure Selector where
  criteria : List Criterion
  deriving DecidableEq, Repr

namespace Selector

def empty : Selector := ⟨[]⟩

instance : Inhabited Selector := ⟨empty⟩

/-- Adds the criterion at the end, in place of an earlier one of its kind. -/
def add (s : Selector) (c : Criterion) : Selector :=
  ⟨s.criteria.filter (fun old => old.kind ≠ c.kind) ++ [c]⟩

def ofList (cs : List Criterion) : Selector := cs.foldl add empty

def contains (s : Selector) (c : Criterion) : Bool := s.criteria.contains c

def sameKind? (s : Selector) (c : Criterion) : Option Criterion :=
  s.criteria.find? fun old => old.kind = c.kind

end Selector

end PolicyRouting
