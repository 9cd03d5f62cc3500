import PolicyRouting.Address.Ipv6

/-!
# Networks

An address and the number of leading bits that count.  The bits behind them
are kept as they were given; `base` clears them.  The text form is the
address, a slash and the length; without a slash the length is full, and an
IPv4 network may give a contiguous mask instead of a length.
-/

namespace PolicyRouting

def clearLow (drop n : Nat) : Nat := n >>> drop <<< drop

/-- The part before the only slash, and the part after it if there is one. -/
def slashParts? (cs : List Char) : Option (List Char × Option (List Char)) :=
  match Text.cutFirst '/' cs with
  | none => some (cs, none)
  | some (before, after) => if after.contains '/' then none else some (before, some after)

structure Ipv4Net where
  address : Ipv4
  length : Fin 33
  deriving DecidableEq, Repr

namespace Ipv4Net

def host (ip : Ipv4) : Ipv4Net := ⟨ip, 32⟩

def of? (ip : Ipv4) (length : Nat) : Option Ipv4Net :=
  if h : length < 33 then some ⟨ip, ⟨length, h⟩⟩ else none

def base (net : Ipv4Net) : Ipv4Net :=
  { net with address := Ipv4.ofNat (clearLow (32 - net.length) net.address.toNat) }

def contains (net : Ipv4Net) (ip : Ipv4) : Bool :=
  clearLow (32 - net.length) ip.toNat = clearLow (32 - net.length) net.address.toNat

/-- The network of an address under a length, with the bits behind it cleared. -/
def around? (ip : Ipv4) (length : Nat) : Option Ipv4Net := (of? ip length).map base

def text (net : Ipv4Net) : String := net.address.text ++ "/" ++ Text.decimalText net.length

def maskLength? (mask : Ipv4) : Option Nat :=
  (List.range 33).find? fun length => mask.toNat = clearLow (32 - length) 0xffffffff

def length? (cs : List Char) : Option Nat :=
  match Ipv4.ofChars? cs with
  | some mask => maskLength? mask
  | none => Text.numeral? 10 33 cs

def ofText? (s : String) : Option Ipv4Net := do
  let (before, after) ← slashParts? s.toList
  let ip ← Ipv4.ofChars? before
  match after with
  | none => return host ip
  | some cs => of? ip (← length? cs)

end Ipv4Net

structure Ipv6Net where
  address : Ipv6
  length : Fin 129
  deriving DecidableEq, Repr

namespace Ipv6Net

def base (net : Ipv6Net) : Ipv6Net :=
  { net with address := Ipv6.ofNat (clearLow (128 - net.length) net.address.toNat) }

def contains (net : Ipv6Net) (ip : Ipv6) : Bool :=
  clearLow (128 - net.length) ip.toNat = clearLow (128 - net.length) net.address.toNat

def text (net : Ipv6Net) : String := net.address.text ++ "/" ++ Text.decimalText net.length

def ofText? (s : String) : Option Ipv6Net := do
  let (before, after) ← slashParts? s.toList
  let ip ← Ipv6.ofChars? before
  match after with
  | none => return ⟨ip, 128⟩
  | some cs =>
      let length ← Text.numeral? 10 129 cs
      if h : length < 129 then some ⟨ip, ⟨length, h⟩⟩ else none

end Ipv6Net

inductive Ip where
  | v4 (ip : Ipv4)
  | v6 (ip : Ipv6)
  deriving DecidableEq, Repr

def Ip.text : Ip → String
  | v4 ip => ip.text
  | v6 ip => ip.text

def Ip.ofText? (s : String) : Option Ip :=
  match Ipv4.ofText? s with
  | some ip => some (.v4 ip)
  | none => (Ipv6.ofText? s).map .v6

inductive IpNet where
  | v4 (net : Ipv4Net)
  | v6 (net : Ipv6Net)
  deriving DecidableEq, Repr

namespace IpNet

def base : IpNet → IpNet
  | v4 net => v4 net.base
  | v6 net => v6 net.base

def contains : IpNet → Ip → Bool
  | v4 net, .v4 ip => net.contains ip
  | v6 net, .v6 ip => net.contains ip
  | _, _ => false

def text : IpNet → String
  | v4 net => net.text
  | v6 net => net.text

def ofText? (s : String) : Option IpNet :=
  match Ipv4Net.ofText? s with
  | some net => some (.v4 net)
  | none => (Ipv6Net.ofText? s).map .v6

end IpNet

end PolicyRouting
