import PolicyRouting.Form.Fabric
import PolicyRouting.Rule.Basic

/-!
# Rules in JSON

Criteria, instructions and timeouts are tagged values; a rule is a record.
A rule that is read keeps the id it was written with, and its criteria are
taken as they are, repeated kinds included.
-/

namespace PolicyRouting

namespace Criterion

def tags : List String :=
  ["in_port", "eth_type", "eth_src", "eth_dst", "vlan_id", "ip_dscp", "ip_proto", "ipv4_src",
   "ipv4_dst", "tcp_src", "tcp_dst", "udp_src", "udp_dst", "icmpv4_type", "icmpv4_code"]

def tag (c : Criterion) : String := tags.getD c.kind.val ""

def valueJson : Criterion → Json
  | inPort port => .nat port.toNat
  | ethSrc mac | ethDst mac => mac.toJson
  | ethType n | vlanId n | tcpSrc n | tcpDst n | udpSrc n | udpDst n => .nat n.toNat
  | ipDscp n | ipProto n | icmpType n | icmpCode n => .nat n.toNat
  | ipv4Src net | ipv4Dst net => net.toJson

def toJson (c : Criterion) : Json := .taggedRecord "type" "value" c.tag (some c.valueJson)

def ofTagged? (tag : String) (json : Json) : Option Criterion :=
  match tag with
  | "in_port" => json.uint32?.map inPort
  | "eth_type" => json.uint16?.map ethType
  | "eth_src" => (Mac.ofJson? json).map ethSrc
  | "eth_dst" => (Mac.ofJson? json).map ethDst
  | "vlan_id" => json.uint16?.map vlanId
  | "ip_dscp" => json.uint8?.map ipDscp
  | "ip_proto" => json.uint8?.map ipProto
  | "ipv4_src" => (Ipv4Net.ofJson? json).map ipv4Src
  | "ipv4_dst" => (Ipv4Net.ofJson? json).map ipv4Dst
  | "tcp_src" => json.uint16?.map tcpSrc
  | "tcp_dst" => json.uint16?.map tcpDst
  | "udp_src" => json.uint16?.map udpSrc
  | "udp_dst" => json.uint16?.map udpDst
  | "icmpv4_type" => json.uint8?.map icmpType
  | "icmpv4_code" => json.uint8?.map icmpCode
  | _ => none

def ofJson? (json : Json) : Option Criterion := do
  let (tag, carried) ← json.tagged? "type" "value"
  ofTagged? tag (← carried)

end Criterion

namespace Selector

def toJson (s : Selector) : Json := .record [("criteria", .array (s.criteria.map Criterion.toJson))]

def ofJson? (json : Json) : Option Selector := do
  let [criteria] ← json.fields? ["criteria"] | none
  return ⟨← criteria.required (Json.listOf? Criterion.ofJson?)⟩

end Selector

namespace Instruction

def toJson : Instruction → Json
  | setEthDst mac => .taggedRecord "type" "value" "set_eth_dst" (some mac.toJson)
  | output port => .taggedRecord "type" "value" "output" (some (.nat port.toNat))

def ofJson? (json : Json) : Option Instruction := do
  let (tag, carried) ← json.tagged? "type" "value"
  let value ← carried
  match tag with
  | "set_eth_dst" => (Mac.ofJson? value).map setEthDst
  | "output" => value.uint32?.map output
  | _ => none

end Instruction

namespace Treatment

def toJson (t : Treatment) : Json :=
  .record [("instructions", .array (t.instructions.map Instruction.toJson))]

def ofJson? (json : Json) : Option Treatment := do
  let [instructions] ← json.fields? ["instructions"] | none
  return ⟨← instructions.required (Json.listOf? Instruction.ofJson?)⟩

end Treatment

namespace Timeout

def toJson : Timeout → Json
  | permanent => .taggedRecord "kind" "seconds" "permanent" none
  | idle seconds => .taggedRecord "kind" "seconds" "idle" (some (.nat seconds.toNat))
  | hard seconds => .taggedRecord "kind" "seconds" "hard" (some (.nat seconds.toNat))

/-- A permanent timeout carries nothing, or null. -/
def ofJson? (json : Json) : Option Timeout := do
  let (tag, carried) ← json.tagged? "kind" "seconds"
  match tag, carried with
  | "permanent", none | "permanent", some .null => some permanent
  | "idle", some value => value.uint32?.map idle
  | "hard", some value => value.uint32?.map hard
  | _, _ => none

end Timeout

namespace Rule

def toJson (rule : Rule) : Json :=
  .record
    [("id", .nat rule.id.toNat), ("device_id", .text rule.device),
     ("selector", rule.selector.toJson), ("treatment", rule.treatment.toJson),
     ("priority", .nat rule.priority.toNat), ("timeout", rule.timeout.toJson),
     ("table_id", .nat rule.table.toNat), ("app_id", .text rule.app)]

def fieldNames : List String :=
  ["id", "device_id", "selector", "treatment", "priority", "timeout", "table_id", "app_id"]

def ofJson? (json : Json) : Option Rule := do
  let [id, device, selector, treatment, priority, timeout, table, app] ←
    json.fields? fieldNames | none
  return {
    id := ← id.required Json.uint64?
    device := ← device.required Json.text?
    selector := ← selector.required Selector.ofJson?
    treatment := ← treatment.required Treatment.ofJson?
    priority := ← priority.required Json.uint16?
    timeout := ← timeout.required Timeout.ofJson?
    table := ← table.required Json.uint32?
    app := ← app.required Json.text? }

end Rule

end PolicyRouting
