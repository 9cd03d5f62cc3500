import PolicyRouting.Form.Fabric
import PolicyRouting.Form.Policy
import PolicyRouting.Routing.Engine

/-!
# Settings, regions and counters in JSON
-/

namespace PolicyRouting

namespace Settings

def fieldNames : List String :=
  ["app_id", "match_ipv4_address", "match_tcp_udp_ports", "match_icmp_fields", "match_dst_mac_only",
   "match_vlan_id", "match_ipv4_dscp", "match_application_port", "intra_idle_timeout",
   "inter_idle_timeout", "table_id", "region_prefix_len"]

def toJson (s : Settings) : Json :=
  .record
    [("app_id", .text s.app), ("match_ipv4_address", .bool s.matchAddresses),
     ("match_tcp_udp_ports", .bool s.matchPorts), ("match_icmp_fields", .bool s.matchIcmp),
     ("match_dst_mac_only", .bool s.dstMacOnly), ("match_vlan_id", .bool s.matchVlan),
     ("match_ipv4_dscp", .bool s.matchDscp), ("match_application_port", .bool s.matchAppPort),
     ("intra_idle_timeout", .nat s.intraIdle.toNat), ("inter_idle_timeout", .nat s.interIdle.toNat),
     ("table_id", .nat s.table.toNat), ("region_prefix_len", .nat s.regionLength.toNat)]

def ofJson? (json : Json) : Option Settings := do
  let [app, matchAddresses, matchPorts, matchIcmp, dstMacOnly, matchVlan, matchDscp, matchAppPort,
    intraIdle, interIdle, table, regionLength] ← json.fields? fieldNames | none
  let default : Settings := {}
  return {
    app := ← app.orElse default.app Json.text?
    matchAddresses := ← matchAddresses.orElse default.matchAddresses Json.bool?
    matchPorts := ← matchPorts.orElse default.matchPorts Json.bool?
    matchIcmp := ← matchIcmp.orElse default.matchIcmp Json.bool?
    dstMacOnly := ← dstMacOnly.orElse default.dstMacOnly Json.bool?
    matchVlan := ← matchVlan.orElse default.matchVlan Json.bool?
    matchDscp := ← matchDscp.orElse default.matchDscp Json.bool?
    matchAppPort := ← matchAppPort.orElse default.matchAppPort Json.bool?
    intraIdle := ← intraIdle.orElse default.intraIdle Json.uint32?
    interIdle := ← interIdle.orElse default.interIdle Json.uint32?
    table := ← table.orElse default.table Json.uint32?
    regionLength := ← regionLength.orElse default.regionLength Json.uint8? }

def ofText (s : String) : Except Fault Settings :=
  match (Json.ofText? s).bind ofJson? with
  | none => .error .malformedDocument
  | some settings => settings.check

def ofFile (content : Except FileFault String) : Except Fault Settings :=
  match content with
  | .error cause => .error (.unreadableFile cause)
  | .ok s => ofText s

/-- The defaults stand in for settings that cannot be used. -/
def ofFileOrDefault (content : Except FileFault String) : Settings :=
  match ofFile content with
  | .ok settings => settings
  | .error _ => {}

end Settings

namespace LocalPrefix

def toJson (entry : LocalPrefix) : Json :=
  .record
    [("prefix", entry.net.toJson), ("gateway_ip", entry.gateway.toJson),
     ("region", .text entry.region)]

def ofJson? (json : Json) : Option LocalPrefix := do
  let [net, gateway, region] ← json.fields? ["prefix", "gateway_ip", "region"] | none
  return ⟨← net.required IpNet.ofJson?, ← gateway.required Ip.ofJson?, ← region.required Json.text?⟩

end LocalPrefix

namespace Regions

def toJson (regions : Regions) : Json :=
  .record
    [("prefixes", .array (regions.locals.map LocalPrefix.toJson)),
     ("virtual_gateway_mac", .ofOption Mac.toJson regions.gatewayMac)]

def ofJson? (json : Json) : Option Regions := do
  let [locals, gatewayMac] ← json.fields? ["prefixes", "virtual_gateway_mac"] | none
  return {
    locals := ← locals.orElse [] (Json.listOf? LocalPrefix.ofJson?)
    gatewayMac := ← gatewayMac.orElse none (Json.nullable? Mac.ofJson?) }

def ofFile (content : Except FileFault String) : Except Fault Regions :=
  match content with
  | .error cause => .error (.unreadableFile cause)
  | .ok s =>
      match (Json.ofText? s).bind ofJson? with
      | none => .error .malformedDocument
      | some regions => .ok regions

end Regions

def ChoiceCounts.toJson (c : ChoiceCounts) : Json :=
  .record
    [("selections", .nat c.selections), ("random", .nat c.random), ("satisfied", .nat c.satisfied),
     ("fallbacks", .nat c.fallbacks), ("empty", .nat c.empty)]

def Counters.toJson (c : Counters) (choices : ChoiceCounts) : Json :=
  .record
    [("packets_seen", .nat c.packets), ("control_dropped", .nat c.control),
     ("non_ipv4_dropped", .nat c.notIpv4), ("arp_replies", .nat c.arpReplies),
     ("unknown_region", .nat c.unknownRegion), ("policy_matches", .nat c.policyMatches),
     ("rules_installed", .nat c.rulesInstalled), ("hosts_unknown", .nat c.hostsUnknown),
     ("selectors_rejected", .nat c.selectorsRejected), ("path_fallbacks", .nat c.pathFallbacks),
     ("path_selection", choices.toJson)]

def Engine.statsJson (e : Engine) : Json := e.counters.toJson e.scene.chooser.counts

def ArpReply.toJson (reply : ArpReply) : Json := .text reply.name

def Disposition.toJson : Disposition → Json
  | unparsed => .record [("disposition", .text "unparsed")]
  | control => .record [("disposition", .text "control")]
  | arpHandled reply => .record [("disposition", .text "arp_handled"), ("reply", reply.toJson)]
  | notIpv4 => .record [("disposition", .text "not_ipv4")]
  | unknownRegion => .record [("disposition", .text "unknown_region")]
  | noMatch => .record [("disposition", .text "no_match")]
  | routed matched installed =>
      .record
        [("disposition", .text "routed"), ("matched", .nat matched), ("installed", .nat installed)]

def RouteOutcome.toJson : RouteOutcome → Json
  | installed rules constraintMet =>
      .record
        [("outcome", .text "installed"), ("rules", .nat rules),
         ("constraint_met", .bool constraintMet)]
  | noSelector => .record [("outcome", .text "no_selector")]
  | sourceUnknown => .record [("outcome", .text "source_unknown")]
  | destinationUnknown => .record [("outcome", .text "destination_unknown")]
  | noPath => .record [("outcome", .text "no_path")]
  | withdrawn => .record [("outcome", .text "withdrawn")]

end PolicyRouting
