import PolicyRouting.Address.Network
import PolicyRouting.Fabric.Host
import PolicyRouting.Fabric.Path
import PolicyRouting.Json.Basic

/-!
# Addresses, hosts, links and paths in JSON

Addresses, networks, connect points and the ids of hosts are strings in their
text forms.  A path in a document states its cost, which may be any number.
-/

namespace PolicyRouting

def Json.parsed? {α : Type} (read : String → Option α) (json : Json) : Option α :=
  json.text?.bind read

def Mac.toJson (m : Mac) : Json := .text m.text

def Mac.ofJson? : Json → Option Mac := Json.parsed? fun s => (Mac.ofText s).toOption

def Ipv4.toJson (ip : Ipv4) : Json := .text ip.text

def Ipv4.ofJson? : Json → Option Ipv4 := Json.parsed? Ipv4.ofText?

def Ip.toJson (ip : Ip) : Json := .text ip.text

def Ip.ofJson? : Json → Option Ip := Json.parsed? Ip.ofText?

def Ipv4Net.toJson (net : Ipv4Net) : Json := .text net.text

def Ipv4Net.ofJson? : Json → Option Ipv4Net := Json.parsed? Ipv4Net.ofText?

def IpNet.toJson (net : IpNet) : Json := .text net.text

def IpNet.ofJson? : Json → Option IpNet := Json.parsed? IpNet.ofText?

def ConnectPoint.toJson (p : ConnectPoint) : Json := .text p.text

def ConnectPoint.ofJson? : Json → Option ConnectPoint :=
  Json.parsed? fun s => (ConnectPoint.ofText s).toOption

def HostId.toJson (id : HostId) : Json := .text id.text

def HostId.ofJson? : Json → Option HostId := Json.parsed? fun s => (HostId.ofText s).toOption

def Host.toJson (host : Host) : Json :=
  .record
    [("id", host.id.toJson), ("ips", .array (host.ips.map Ipv4.toJson)),
     ("location", host.location.toJson)]

def Host.ofJson? (json : Json) : Option Host := do
  let [id, ips, location] ← json.fields? ["id", "ips", "location"] | none
  return {
    id := ← id.required HostId.ofJson?
    ips := ← ips.orElse [] (Json.listOf? Ipv4.ofJson?)
    location := ← location.required ConnectPoint.ofJson? }

def Link.toJson (link : Link) : Json :=
  .record [("src", link.src.toJson), ("dst", link.dst.toJson)]

def Link.ofJson? (json : Json) : Option Link := do
  let [src, dst] ← json.fields? ["src", "dst"] | none
  return ⟨← src.required ConnectPoint.ofJson?, ← dst.required ConnectPoint.ofJson?⟩

def Path.toJson (path : Path) : Json :=
  .record [("links", .array (path.links.map Link.toJson)), ("cost", .number path.cost.text)]

/-- Any number is a cost; one that is too large is refused. -/
def Cost.ofJson? : Json → Option Cost
  | .number token => Cost.ofText? token
  | _ => none

def Path.ofJson? (json : Json) : Option Path := do
  let [links, cost] ← json.fields? ["links", "cost"] | none
  return ⟨← links.required (Json.listOf? Link.ofJson?), ← cost.required Cost.ofJson?⟩

end PolicyRouting
