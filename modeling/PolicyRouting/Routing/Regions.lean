import PolicyRouting.Address.Mac
import PolicyRouting.Address.Network
import PolicyRouting.Keyed

/-!
# Regions and gateways

The local prefixes, each with its region and the address of its gateway, and
the MAC address under which all gateways answer.  They are entered one after
the other into the table in which everything is looked up.  A region is found
under the exact prefix it was given for, not under a wider one; where a prefix
is given twice the later entry counts.  Bits behind the length never count.
-/

namespace PolicyRouting

structure LocalPrefix where
  net : IpNet
  gateway : Ip
  region : String
  deriving DecidableEq, Repr

structure Regions where
  locals : List LocalPrefix := []
  gatewayMac : Option Mac := none
  deriving DecidableEq, Repr, Inhabited

instance : Ranked Ipv4Net where
  rank net := 33 * net.address.toNat + net.length
  rank_injective := by
    rintro ⟨address, length⟩ ⟨address', length'⟩ h
    simp only at h
    have := length.isLt
    have := length'.isLt
    have addresses : address = address' := Ipv4.toNat_injective (by omega)
    have lengths : length = length' := Fin.ext (by omega)
    rw [addresses, lengths]

structure RegionTable where
  regions : Keyed Ipv4Net String
  nets : List IpNet
  gateways : List Ip
  gatewayMac : Option Mac
  deriving Inhabited

namespace RegionTable

def empty (gatewayMac : Option Mac) : RegionTable := ⟨.empty, [], [], gatewayMac⟩

/-- The region takes the place of an earlier one; only IPv4 networks name regions. -/
def enter (table : RegionTable) (entry : LocalPrefix) : RegionTable :=
  { table with
    regions :=
      match entry.net.base with
      | .v4 net => table.regions.insert net entry.region
      | .v6 _ => table.regions
    nets := table.nets ++ [entry.net.base]
    gateways := table.gateways.insert entry.gateway }

def regionOf? (table : RegionTable) (net : Ipv4Net) : Option String :=
  table.regions.get? net.base

def regionOfIp? (table : RegionTable) (ip : Ipv4) (length : UInt8) : Option String :=
  (Ipv4Net.around? ip length.toNat).bind table.regionOf?

def isLocal (table : RegionTable) (ip : Ip) : Bool := table.nets.any (·.contains ip)

def isLocalNet (table : RegionTable) (net : IpNet) : Bool := table.nets.contains net.base

def isGateway (table : RegionTable) (ip : Ip) : Bool := table.gateways.contains ip

end RegionTable

def Regions.table (regions : Regions) : RegionTable :=
  regions.locals.foldl RegionTable.enter (.empty regions.gatewayMac)

/-- Wherever a table is looked into, the regions stand for theirs. -/
instance : Coe Regions RegionTable := ⟨Regions.table⟩

end PolicyRouting
