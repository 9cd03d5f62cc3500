import PolicyRouting.Address.Ipv4
import PolicyRouting.Address.Mac
import PolicyRouting.Fabric.Point

/-!
# Hosts

A host is known by its MAC address and, when its traffic is tagged, its VLAN.
The text form of the id is the address, a slash and the VLAN number, or the
word `None` for an untagged host; reading also takes the bare address and
the VLAN `-1` for untagged.
-/

namespace PolicyRouting

structure HostId where
  mac : Mac
  vlan : Option UInt16
  deriving DecidableEq, Repr, Inhabited

namespace HostId

def untagged (mac : Mac) : HostId := ⟨mac, none⟩

/-- The place of an id in the order by address, untagged before tagged. -/
def rank (id : HostId) : Nat :=
  id.mac.toNat * 65537 + (match id.vlan with | none => 0 | some v => v.toNat + 1)

def text (id : HostId) : String :=
  id.mac.text ++ "/" ++
    (match id.vlan with | none => "None" | some v => Text.decimalText v.toNat)

def vlan? (cs : List Char) : Option (Option UInt16) :=
  if cs = ['N', 'o', 'n', 'e'] ∨ cs = ['-', '1'] then some none
  else (Text.uint16? cs).map some

def ofChars? (cs : List Char) : Option HostId :=
  let (mac, vlan) := match Text.cutFirst '/' cs with
    | some (mac, vlan) => (mac, vlan? vlan)
    | none => (cs, some none)
  match Mac.ofText (String.ofList mac), vlan with
  | .ok mac, some vlan => some ⟨mac, vlan⟩
  | _, _ => none

/-- The refusal repeats the text without the blanks around it. -/
def ofText (s : String) : Except Fault HostId :=
  let cs := Text.trim s.toList
  match ofChars? cs with
  | some id => .ok id
  | none => .error (.malformedHostId (String.ofList cs))

def listOfText (s : String) : Except Fault (List HostId) := (Text.items s).mapM ofText

end HostId

structure Host where
  id : HostId
  ips : List Ipv4
  location : ConnectPoint
  deriving DecidableEq, Repr, Inhabited

def Host.untagged (mac : Mac) (ips : List Ipv4) (location : ConnectPoint) : Host :=
  ⟨HostId.untagged mac, ips, location⟩

end PolicyRouting
