import PolicyRouting.Fault
import PolicyRouting.Text.Blank
import PolicyRouting.Text.Split

/-!
# Connect points

A connect point is a port of a device: where a host or a link is attached.
Its text form is the device, a slash and the port; since a device name may
hold slashes, reading cuts at the last one.
-/

namespace PolicyRouting

structure ConnectPoint where
  device : String
  port : UInt32
  deriving DecidableEq, Repr, Inhabited

namespace ConnectPoint

def le (p q : ConnectPoint) : Bool :=
  p.device < q.device || (p.device == q.device && p.port ≤ q.port)

def text (p : ConnectPoint) : String := p.device ++ "/" ++ Text.decimalText p.port.toNat

def ofChars? (cs : List Char) : Option ConnectPoint := do
  let (device, port) ← Text.cutLast '/' cs
  if device.isEmpty then none
  else (Text.uint32? port).map fun n => ⟨String.ofList device, n⟩

/-- The refusal repeats the text as it was given. -/
def ofText (s : String) : Except Fault ConnectPoint :=
  match ofChars? (Text.trim s.toList) with
  | some p => .ok p
  | none => .error (.malformedConnectPoint s)

end ConnectPoint

namespace Text

def items (s : String) : List String :=
  ((pieces ',' s.toList).map fun piece => String.ofList (trim piece)).filter (· ≠ "")

end Text

def ConnectPoint.listOfText (s : String) : Except Fault (List ConnectPoint) :=
  (Text.items s).mapM ConnectPoint.ofText

end PolicyRouting
