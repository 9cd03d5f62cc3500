import PolicyRouting.Fabric.Outbox
import PolicyRouting.Form.Fabric
import PolicyRouting.Form.Rule
import PolicyRouting.Json.Reader
import PolicyRouting.Policy.Register
import PolicyRouting.Policy.Request

/-!
# Policies, requests and snapshots in JSON

Named values are strings.  Reading a policy does not check it: a policy that
was checked once may be written and read again.
-/

namespace PolicyRouting

def Protocol.ofJson? : Json → Option Protocol := Json.oneOf? name all
def TrafficClass.ofJson? : Json → Option TrafficClass := Json.oneOf? name all
def Application.ofJson? : Json → Option Application := Json.oneOf? name all
def PolicyState.ofJson? : Json → Option PolicyState := Json.oneOf? name all
def PathPreference.ofJson? : Json → Option PathPreference := Json.oneOf? name all
def PacketPriority.ofJson? : Json → Option PacketPriority := Json.oneOf? name all
def RouteClass.ofJson? : Json → Option RouteClass := Json.oneOf? name all
def RouteClass.ofActionJson? : Json → Option RouteClass := Json.oneOf? actionName all

def Timestamp.toJson (t : Timestamp) : Json := .text t.text

def Timestamp.ofJson? : Json → Option Timestamp := Json.parsed? Timestamp.ofText?

namespace Profile

/-- Criteria are written only if there are some. -/
def toJson (profile : Profile) : Json :=
  .record
    ([("id", .nat profile.serial.toNat), ("name", .text profile.name),
      ("application", .text profile.application.name)]
      ++ if profile.criteria.isEmpty then []
        else [("criteria", .array (profile.criteria.map Criterion.toJson))])

def ofJson? (json : Json) : Option Profile := do
  let [serial, name, application, criteria] ←
    json.fields? ["id", "name", "application", "criteria"] | none
  return {
    serial := ← serial.required Json.uint64?
    name := ← name.required Json.text?
    application := ← application.required Application.ofJson?
    criteria := ← criteria.orElse [] (Json.listOf? Criterion.ofJson?) }

end Profile

namespace Policy

def fieldNames : List String :=
  ["id", "name", "priority", "state", "version", "action", "src_region", "dst_region", "src_hosts",
   "dst_hosts", "partial_path", "path_selection", "traffic_profile", "created_at"]

def toJson (policy : Policy) : Json :=
  .record
    [("id", .nat policy.id.toNat), ("name", .text policy.name),
     ("priority", .nat policy.priority.toNat), ("state", .text policy.state.name),
     ("version", .nat policy.version.toNat), ("action", .text policy.action.actionName),
     ("src_region", .text policy.srcRegion), ("dst_region", .text policy.dstRegion),
     ("src_hosts", .array (policy.srcHosts.map HostId.toJson)),
     ("dst_hosts", .array (policy.dstHosts.map HostId.toJson)),
     ("partial_path", .array (policy.partialPath.map ConnectPoint.toJson)),
     ("path_selection", .text policy.preference.name),
     ("traffic_profile", policy.profile.toJson), ("created_at", policy.createdAt.toJson)]

def ofJson? (json : Json) : Option Policy := do
  let [id, name, priority, state, version, action, srcRegion, dstRegion, srcHosts, dstHosts,
    partialPath, preference, profile, createdAt] ← json.fields? fieldNames | none
  return {
    id := ← id.required Json.uint32?
    name := ← name.required Json.text?
    priority := ← priority.required Json.uint16?
    state := ← state.required PolicyState.ofJson?
    version := ← version.required Json.uint64?
    action := ← action.required RouteClass.ofActionJson?
    srcRegion := ← srcRegion.required Json.text?
    dstRegion := ← dstRegion.required Json.text?
    srcHosts := ← srcHosts.orElse [] (Json.listOf? HostId.ofJson?)
    dstHosts := ← dstHosts.orElse [] (Json.listOf? HostId.ofJson?)
    partialPath := ← partialPath.orElse [] (Json.listOf? ConnectPoint.ofJson?)
    preference := ← preference.orElse .bestPossible PathPreference.ofJson?
    profile := ← profile.required Profile.ofJson?
    createdAt := ← createdAt.required Timestamp.ofJson? }

end Policy

/-- An event and when it happened, in milliseconds. -/
structure EventRecord where
  event : Event
  millis : UInt64
  deriving DecidableEq, Repr

namespace EventRecord

def toJson (r : EventRecord) : Json :=
  .record
    [("kind", .text r.event.kind.name), ("policy", r.event.policy.toJson),
     ("timestamp", .nat r.millis.toNat)]

def ofJson? (json : Json) : Option EventRecord := do
  let [kind, policy, millis] ← json.fields? ["kind", "policy", "timestamp"] | none
  let kind ← kind.required PolicyState.ofJson?
  let policy ← policy.required Policy.ofJson?
  return ⟨⟨kind, policy⟩, ← millis.required Json.uint64?⟩

end EventRecord

namespace OwnedRules

def toJson (owned : OwnedRules) : Json :=
  .record [("policy", .nat owned.policy.toNat), ("rules", .array (owned.rules.map Rule.toJson))]

def ofJson? (json : Json) : Option OwnedRules := do
  let [policy, rules] ← json.fields? ["policy", "rules"] | none
  return ⟨← policy.required Json.uint32?, ← rules.required (Json.listOf? Rule.ofJson?)⟩

end OwnedRules

namespace Snapshot

def toJson (snapshot : Snapshot) : Json :=
  .record
    [("policies", .array (snapshot.policies.map Policy.toJson)),
     ("rules", .array (snapshot.rules.map OwnedRules.toJson))]

def ofJson? (json : Json) : Option Snapshot := do
  let [policies, rules] ← json.fields? ["policies", "rules"] | none
  return {
    policies := ← policies.orElse [] (Json.listOf? Policy.ofJson?)
    rules := ← rules.orElse [] (Json.listOf? OwnedRules.ofJson?) }

def ofText? (s : String) : Option Snapshot := (Json.ofText? s).bind ofJson?

end Snapshot

namespace Request

def fieldNames : List String :=
  ["profile_name", "application", "priority", "partial_path", "path_selection", "region",
   "dst_region", "action", "src_hosts", "dst_hosts"]

def toJson (request : Request) : Json :=
  let option := Json.ofOption Json.text
  .record
    [("profile_name", .text request.profileName), ("application", option request.application),
     ("priority", option request.priority), ("partial_path", option request.partialPath),
     ("path_selection", option request.preference), ("region", .text request.region),
     ("dst_region", option request.dstRegion), ("action", option request.action),
     ("src_hosts", option request.srcHosts), ("dst_hosts", option request.dstHosts)]

def ofJson? (json : Json) : Option Request := do
  let [profileName, application, priority, partialPath, preference, region, dstRegion, action,
    srcHosts, dstHosts] ← json.fields? fieldNames | none
  return {
    profileName := ← profileName.required Json.text?
    application := ← application.optional Json.text?
    priority := ← priority.optional Json.text?
    partialPath := ← partialPath.optional Json.text?
    preference := ← preference.optional Json.text?
    region := ← region.required Json.text?
    dstRegion := ← dstRegion.optional Json.text?
    action := ← action.optional Json.text?
    srcHosts := ← srcHosts.optional Json.text?
    dstHosts := ← dstHosts.optional Json.text? }

end Request

def Summary.toJson (s : Summary) : Json :=
  .record
    [("id", .nat s.id.toNat), ("profile_name", .text s.profileName),
     ("priority", .nat s.priority.toNat), ("application", .text s.application),
     ("devices", .texts s.devices), ("src_hosts", .texts s.srcHosts),
     ("dst_hosts", .texts s.dstHosts), ("src_region", .text s.srcRegion),
     ("dst_region", .text s.dstRegion), ("action", .text s.action),
     ("path_selection", .text s.preference), ("state", .text s.state), ("rules", .nat s.rules)]

end PolicyRouting
