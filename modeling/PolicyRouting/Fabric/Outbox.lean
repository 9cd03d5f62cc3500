import PolicyRouting.Fabric.Point
import PolicyRouting.Frame.Basic
import PolicyRouting.Frame.Reader

/-!
# Packets sent and packets asked for

Frames leave at a connect point, in order.  Which packets the devices hand
over is asked for by type and priority; asking twice is asking once.
-/

namespace PolicyRouting

inductive PacketPriority where
  | control | reactive
  deriving DecidableEq, Repr, Inhabited

namespace PacketPriority

def all : List PacketPriority := [control, reactive]

def name : PacketPriority → String
  | control => "CONTROL"
  | reactive => "REACTIVE"

def value : PacketPriority → Nat
  | control => 40000
  | reactive => 5

end PacketPriority

structure Sent where
  point : ConnectPoint
  frame : Bytes
  deriving DecidableEq, Repr

structure Outbox where
  sent : List Sent
  intercepts : List (UInt16 × PacketPriority)
  deriving DecidableEq, Repr, Inhabited

namespace Outbox

def empty : Outbox := ⟨[], []⟩

def send (o : Outbox) (point : ConnectPoint) (frame : Bytes) : Outbox :=
  { o with sent := o.sent ++ [⟨point, frame⟩] }

def request (o : Outbox) (etherType : UInt16) (priority : PacketPriority) : Outbox :=
  if o.intercepts.contains (etherType, priority) then o
  else { o with intercepts := o.intercepts ++ [(etherType, priority)] }

def cancel (o : Outbox) (etherType : UInt16) (priority : PacketPriority) : Outbox :=
  { o with intercepts := o.intercepts.filter (· ≠ (etherType, priority)) }

def isRequested (o : Outbox) (etherType : UInt16) (priority : PacketPriority) : Bool :=
  o.intercepts.contains (etherType, priority)

end Outbox

end PolicyRouting
