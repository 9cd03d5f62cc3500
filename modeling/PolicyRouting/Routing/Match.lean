import PolicyRouting.Policy.Basic

/-!
# The selector for a packet

The settings say which fields a rule matches, how long it stays without traffic,
where it is put, and how many address bits name a region.  A policy's
application decides whether it can be routed in a class at all, and by which
transport.  The selector for a packet then pins the fields that the settings
name.  The host filter of the policy has to let the two hosts pass.
-/

namespace PolicyRouting

structure Settings where
  app : String := "org.osdfreactive"
  matchAddresses : Bool := true
  matchPorts : Bool := true
  matchIcmp : Bool := true
  dstMacOnly : Bool := false
  matchVlan : Bool := false
  matchDscp : Bool := false
  matchAppPort : Bool := false
  intraIdle : UInt32 := 100
  interIdle : UInt32 := 100
  table : UInt32 := 0
  regionLength : UInt8 := 24
  deriving DecidableEq, Repr, Inhabited

namespace Settings

def check (settings : Settings) : Except Fault Settings :=
  if 32 < settings.regionLength then .error (.regionLengthTooLong settings.regionLength)
  else if settings.app = "" then .error .unnamedApp
  else .ok settings

end Settings

inductive Carrier where
  | tcp | udp | icmp
  deriving DecidableEq, Repr

def Carrier.number : Carrier → UInt8
  | tcp => IpProtocol.tcp
  | udp => IpProtocol.udp
  | icmp => IpProtocol.icmp

/-- How the application is carried in the class; not every pair is routed. -/
def carrier? : RouteClass → Application → Option Carrier
  | _, .web => some .tcp
  | _, .videoStreaming => some .tcp
  | _, .ping => some .icmp
  | .intra, .voip => some .udp
  | _, _ => none

namespace Policy

/--
Two empty lists let all hosts pass.  With two lists the pair has to be in them, one host in each, in
either direction; with one list, one of the hosts has to be in it.
-/
def allowsHosts (policy : Policy) (src dst : HostId) : Bool :=
  let froms := policy.srcHosts
  let tos := policy.dstHosts
  match froms.isEmpty, tos.isEmpty with
  | true, true => true
  | true, false => tos.contains dst || tos.contains src
  | false, true => froms.contains src || froms.contains dst
  | false, false =>
      (froms.contains src && tos.contains dst) || (froms.contains dst && tos.contains src)

/-- Intra policies take their own pair of regions, inter policies the pair in either direction. -/
def joins (policy : Policy) (class_ : RouteClass) (src dst : String) : Bool :=
  let forward := policy.srcRegion = src && policy.dstRegion = dst
  match class_ with
  | .intra => forward
  | .inter => forward || (policy.srcRegion = dst && policy.dstRegion = src)

end Policy

namespace Settings

variable (settings : Settings)

/-- The MAC addresses are pinned only inside a region; between regions they change on the way. -/
def macCriteria (class_ : RouteClass) (frame : Frame) : List Criterion :=
  match class_ with
  | .inter => []
  | .intra => (if settings.dstMacOnly then [] else [.ethSrc frame.src]) ++ [.ethDst frame.dst]

def addressCriteria (class_ : RouteClass) (frame : Frame) (header : Ipv4Header) : List Criterion :=
  if settings.matchAddresses then
    [.ipv4Src (.host header.src), .ipv4Dst (.host header.dst)] ++ settings.macCriteria class_ frame
  else []

def vlanCriteria (frame : Frame) : List Criterion :=
  match settings.matchVlan, frame.vlan with
  | true, some vlan => [.vlanId vlan]
  | _, _ => []

def dscpCriteria (header : Ipv4Header) : List Criterion :=
  if settings.matchDscp then [.ipDscp header.dscp] else []

/-- Where the port of the application is asked for, one end has to use it. -/
def portsPass (policy : Policy) (srcPort dstPort : UInt16) : Bool :=
  !settings.matchAppPort || srcPort = policy.application.port || dstPort = policy.application.port

def transportCriteria? (policy : Policy) : Carrier → Transport → Option (List Criterion)
  | .tcp, .tcp srcPort dstPort =>
      if settings.portsPass policy srcPort dstPort then
        some (if settings.matchPorts then
          [.ipProto IpProtocol.tcp, .tcpSrc srcPort, .tcpDst dstPort] else [])
      else none
  | .udp, .udp srcPort dstPort =>
      if settings.portsPass policy srcPort dstPort then
        some (if settings.matchPorts then
          [.ipProto IpProtocol.udp, .udpSrc srcPort, .udpDst dstPort] else [])
      else none
  | .icmp, .icmp type code =>
      some (if settings.matchIcmp then
        [.ipProto IpProtocol.icmp, .icmpType type, .icmpCode code] else [])
  | _, _ => none

def criteria? (class_ : RouteClass) (frame : Frame) (policy : Policy) (carrier : Carrier)
    (header : Ipv4Header) : Option (List Criterion) :=
  if frame.etherType = EtherType.ipv4 ∧ header.protocol = carrier.number then
    (settings.transportCriteria? policy carrier header.transport).map fun transport =>
      [.ethType EtherType.ipv4] ++ settings.addressCriteria class_ frame header
        ++ settings.vlanCriteria frame ++ settings.dscpCriteria header ++ transport
  else none

/--
The selector of the rules that route `frame` to `dstHost` under the policy; there is none where the
policy does not govern the packet.
-/
def selector? (class_ : RouteClass) (frame : Frame) (policy : Policy) (dstHost : HostId) :
    Option Selector := do
  let carrier ← carrier? class_ policy.application
  let header ← frame.ipv4?
  if policy.allowsHosts (.untagged frame.src) dstHost then
    (settings.criteria? class_ frame policy carrier header).map Selector.ofList
  else none

end Settings

end PolicyRouting
