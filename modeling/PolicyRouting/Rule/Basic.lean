import PolicyRouting.Rule.Criterion
import PolicyRouting.Rule.Digest

/-!
# Flow rules

A rule tells one device which packets to take, what to do with them, and how
long to keep the rule.  The id of a rule that is made here is the digest of
its content: device, selector, priority, table and owner.  What the rule does
and when it expires are not part of the content, so a rule that differs only
in these has the same id.
-/

namespace PolicyRouting

inductive Instruction where
  | setEthDst (mac : Mac)
  | output (port : UInt32)
  deriving DecidableEq, Repr

structure Treatment where
  instructions : List Instruction
  deriving DecidableEq, Repr, Inhabited

namespace Treatment

def drop : Treatment := ⟨[]⟩

def forward (port : UInt32) : Treatment := ⟨[.output port]⟩

def readdress (mac : Mac) (port : UInt32) : Treatment := ⟨[.setEthDst mac, .output port]⟩

def outputPort? (t : Treatment) : Option UInt32 :=
  t.instructions.findSome? fun
    | .output port => some port
    | .setEthDst _ => none

end Treatment

inductive Timeout where
  | permanent
  | idle (seconds : UInt32)
  | hard (seconds : UInt32)
  deriving DecidableEq, Repr, Inhabited

structure Rule where
  id : UInt64
  device : String
  selector : Selector
  treatment : Treatment
  priority : UInt16
  timeout : Timeout
  table : UInt32
  app : String
  deriving DecidableEq, Repr, Inhabited

namespace Rule

def bytesOf (width n : Nat) : List UInt8 :=
  match width with
  | 0 => []
  | width + 1 => UInt8.ofNat n :: bytesOf width (n / 256)

/-- The bytes of a text and a byte that no text contains. -/
def textBytes (s : String) : List UInt8 := s.toUTF8.toList ++ [0xff]

def macBytes (mac : Mac) : List UInt8 := bytesOf 8 6 ++ mac.octets

def netBytes (net : Ipv4Net) : List UInt8 :=
  net.address.octets ++ [UInt8.ofNat net.length]

def valueBytes : Criterion → List UInt8
  | .inPort port => bytesOf 4 port.toNat
  | .ethSrc mac | .ethDst mac => macBytes mac
  | .ethType n | .vlanId n | .tcpSrc n | .tcpDst n | .udpSrc n | .udpDst n => bytesOf 2 n.toNat
  | .ipDscp n | .ipProto n | .icmpType n | .icmpCode n => [n]
  | .ipv4Src net | .ipv4Dst net => netBytes net

/-- The place of the kind, then the value in the width of the kind. -/
def criterionBytes (c : Criterion) : List UInt8 := bytesOf 8 c.kind.val ++ valueBytes c

def contentBytes (device : String) (selector : Selector) (priority : UInt16) (table : UInt32)
    (app : String) : List UInt8 :=
  textBytes device
    ++ bytesOf 8 selector.criteria.length
    ++ selector.criteria.flatMap criterionBytes
    ++ bytesOf 2 priority.toNat
    ++ bytesOf 4 table.toNat
    ++ textBytes app

/-- The bytes that decide the id of a rule with this content. -/
def content (rule : Rule) : List UInt8 :=
  contentBytes rule.device rule.selector rule.priority rule.table rule.app

def make (device : String) (selector : Selector) (treatment : Treatment) (priority : UInt16)
    (timeout : Timeout) (table : UInt32) (app : String) : Rule where
  id := Digest.ofBytes (contentBytes device selector priority table app)
  device := device
  selector := selector
  treatment := treatment
  priority := priority
  timeout := timeout
  table := table
  app := app

def idText (id : UInt64) : String := "0x" ++ String.ofList (Nat.toDigits 16 id.toNat)

end Rule

end PolicyRouting
