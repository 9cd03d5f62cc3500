import PolicyRouting.Form.Policy
import PolicyRouting.Proofs.Calendar.Timestamps
import PolicyRouting.Proofs.Fabric.Texts
import PolicyRouting.Proofs.Json.Records

/-!
# Snapshots that are written and read

Each kind of value denotes, in JSON, what it was written for.  A policy does so
if the connect points of its path are readable, which all connect points are
that were read themselves.  So a snapshot of such policies is read from its
text in either layout, with nothing lost and nothing added.
-/

namespace PolicyRouting

open Json (Plain Denotes)

theorem Mac.denotes (m : Mac) : Denotes Mac.ofJson? m.toJson m :=
  Json.denotes_parsed (by rw [Mac.ofText_text]; rfl)

theorem Ipv4Net.denotes (net : Ipv4Net) : Denotes Ipv4Net.ofJson? net.toJson net :=
  Json.denotes_parsed (Ipv4Net.ofText?_text net)

theorem HostId.denotes (id : HostId) : Denotes HostId.ofJson? id.toJson id :=
  Json.denotes_parsed (by rw [HostId.ofText_text]; rfl)

theorem ConnectPoint.denotes {p : ConnectPoint} (h : p.IsReadable) :
    Denotes ConnectPoint.ofJson? p.toJson p :=
  Json.denotes_parsed (by rw [ConnectPoint.ofText_text h]; rfl)

theorem Timestamp.denotes (t : Timestamp) : Denotes Timestamp.ofJson? t.toJson t :=
  Json.denotes_parsed (Timestamp.ofText?_text t)

theorem Application.denotes (app : Application) :
    Denotes Application.ofJson? (.text app.name) app :=
  Json.denotes_oneOf (by cases app <;> decide)

theorem PolicyState.denotes (state : PolicyState) :
    Denotes PolicyState.ofJson? (.text state.name) state :=
  Json.denotes_oneOf (by cases state <;> decide)

theorem RouteClass.denotes_action (action : RouteClass) :
    Denotes RouteClass.ofActionJson? (.text action.actionName) action :=
  Json.denotes_oneOf (by cases action <;> decide)

theorem PathPreference.denotes (preference : PathPreference) :
    Denotes PathPreference.ofJson? (.text preference.name) preference :=
  Json.denotes_oneOf (by cases preference <;> decide)

theorem Criterion.plain_valueJson (c : Criterion) : Plain c.valueJson := by
  cases c <;> first | exact .nat _ | exact .string _

theorem Criterion.tag_eq (c : Criterion) :
    c.tag = match c with
      | inPort _ => "in_port" | ethType _ => "eth_type" | ethSrc _ => "eth_src"
      | ethDst _ => "eth_dst" | vlanId _ => "vlan_id" | ipDscp _ => "ip_dscp"
      | ipProto _ => "ip_proto" | ipv4Src _ => "ipv4_src" | ipv4Dst _ => "ipv4_dst"
      | tcpSrc _ => "tcp_src" | tcpDst _ => "tcp_dst" | udpSrc _ => "udp_src"
      | udpDst _ => "udp_dst" | icmpType _ => "icmpv4_type" | icmpCode _ => "icmpv4_code" := by
  cases c <;> rfl

theorem Criterion.ofTagged?_valueJson (c : Criterion) : ofTagged? c.tag c.valueJson = some c := by
  rw [tag_eq]
  cases c <;>
    simp [ofTagged?, valueJson, (Json.denotes_uint8 _).read_eq, (Json.denotes_uint16 _).read_eq,
      (Json.denotes_uint32 _).read_eq, (Mac.denotes _).read_eq, (Ipv4Net.denotes _).read_eq]

theorem Criterion.denotes (c : Criterion) : Denotes Criterion.ofJson? c.toJson c where
  plain := Json.plain_taggedRecord fun json mem => by
    obtain rfl := Option.mem_some_iff.1 mem
    exact c.plain_valueJson
  read_eq := by
    rw [ofJson?, toJson, Json.tagged?_taggedRecord (by decide)]
    exact c.ofTagged?_valueJson

theorem Selector.denotes (s : Selector) : Denotes Selector.ofJson? s.toJson s := by
  have criteria := Json.denotes_list fun c (_ : c ∈ s.criteria) => c.denotes
  refine ⟨Json.plain_record (by simpa using criteria.plain), ?_⟩
  simp [ofJson?, toJson, Json.fields?_record, Json.Field.required, criteria.read_eq]

theorem Instruction.denotes (i : Instruction) : Denotes Instruction.ofJson? i.toJson i := by
  cases i with
  | setEthDst mac =>
      refine ⟨Json.plain_taggedRecord (by simpa using mac.denotes.plain), ?_⟩
      simp [ofJson?, toJson, Json.tagged?_taggedRecord, mac.denotes.read_eq]
  | output port =>
      refine ⟨Json.plain_taggedRecord (by simpa using .nat _), ?_⟩
      simp [ofJson?, toJson, Json.tagged?_taggedRecord, (Json.denotes_uint32 port).read_eq]

theorem Treatment.denotes (t : Treatment) : Denotes Treatment.ofJson? t.toJson t := by
  have instructions := Json.denotes_list fun i (_ : i ∈ t.instructions) => i.denotes
  refine ⟨Json.plain_record (by simpa using instructions.plain), ?_⟩
  simp [ofJson?, toJson, Json.fields?_record, Json.Field.required, instructions.read_eq]

theorem Timeout.denotes (t : Timeout) : Denotes Timeout.ofJson? t.toJson t := by
  cases t with
  | permanent =>
      refine ⟨Json.plain_taggedRecord (by simp), ?_⟩
      simp [ofJson?, toJson, Json.tagged?_taggedRecord]
  | idle seconds =>
      refine ⟨Json.plain_taggedRecord (by simpa using .nat _), ?_⟩
      simp [ofJson?, toJson, Json.tagged?_taggedRecord, (Json.denotes_uint32 seconds).read_eq]
  | hard seconds =>
      refine ⟨Json.plain_taggedRecord (by simpa using .nat _), ?_⟩
      simp [ofJson?, toJson, Json.tagged?_taggedRecord, (Json.denotes_uint32 seconds).read_eq]

theorem Rule.denotes (rule : Rule) : Denotes Rule.ofJson? rule.toJson rule := by
  have selector := rule.selector.denotes
  have treatment := rule.treatment.denotes
  have timeout := rule.timeout.denotes
  refine ⟨Json.plain_record ?_, ?_⟩
  · simpa using ⟨.nat _, .string _, selector.plain, treatment.plain, .nat _, timeout.plain, .nat _,
      .string _⟩
  · simp [ofJson?, toJson, fieldNames, Json.fields?_record, Json.Field.required,
      (Json.denotes_uint64 _).read_eq, (Json.denotes_uint16 _).read_eq,
      (Json.denotes_uint32 _).read_eq, (Json.denotes_text _).read_eq, selector.read_eq,
      treatment.read_eq, timeout.read_eq]

theorem Profile.denotes (profile : Profile) : Denotes Profile.ofJson? profile.toJson profile := by
  obtain ⟨serial, name, application, criteria⟩ := profile
  cases criteria with
  | nil =>
      refine ⟨Json.plain_record ?_, ?_⟩
      · simpa using ⟨.nat _, .string _, .string _⟩
      · simp [ofJson?, toJson, Json.record, Json.fields?, Json.fieldNamed?, Json.membersNamed?,
          Json.Field.required, Json.Field.orElse, (Json.denotes_uint64 _).read_eq,
          (Json.denotes_text _).read_eq, application.denotes.read_eq]
  | cons c criteria =>
      have written := Json.denotes_list fun c' (_ : c' ∈ c :: criteria) => c'.denotes
      rw [List.map_cons] at written
      refine ⟨Json.plain_record ?_, ?_⟩
      · simpa using ⟨.nat _, .string _, .string _, written.plain⟩
      · simp only [ofJson?, toJson, List.isEmpty_cons, Bool.false_eq_true, if_false,
          List.cons_append, List.nil_append]
        simp [Json.fields?_record, Json.Field.required, Json.Field.orElse,
          (Json.denotes_uint64 _).read_eq, (Json.denotes_text _).read_eq,
          application.denotes.read_eq, written.read_eq]

/-- The connect points that the path has to pass are readable. -/
def Policy.IsReadable (policy : Policy) : Prop := ∀ p ∈ policy.partialPath, p.IsReadable

theorem Policy.nodup_fieldNames : fieldNames.Nodup := by decide

theorem Policy.denotes {policy : Policy} (h : policy.IsReadable) :
    Denotes Policy.ofJson? policy.toJson policy := by
  have srcHosts := Json.denotes_list fun id (_ : id ∈ policy.srcHosts) => id.denotes
  have dstHosts := Json.denotes_list fun id (_ : id ∈ policy.dstHosts) => id.denotes
  have partialPath := Json.denotes_list fun p mem => ConnectPoint.denotes (h p mem)
  have profile := policy.profile.denotes
  refine ⟨Json.plain_record ?_, ?_⟩
  · simpa using ⟨.nat _, .string _, .nat _, .string _, .nat _, .string _, .string _, .string _,
      srcHosts.plain, dstHosts.plain, partialPath.plain, .string _, profile.plain, .string _⟩
  · rw [ofJson?, toJson, Json.fields?_record ?named nodup_fieldNames]
    case named => rfl
    -- field by field from the front: each field is read before the others are looked at
    simp only [List.map_cons, List.map_nil, ↓Option.bind_eq_bind, ↓Option.bind_some,
      ↓(Json.denotes_uint32 _).required_bind, ↓(Json.denotes_text _).required_bind,
      ↓(Json.denotes_uint16 _).required_bind, ↓(Json.denotes_uint64 _).required_bind,
      ↓policy.state.denotes.required_bind, ↓policy.action.denotes_action.required_bind,
      ↓srcHosts.orElse_bind, ↓dstHosts.orElse_bind, ↓partialPath.orElse_bind,
      ↓policy.preference.denotes.orElse_bind, ↓profile.required_bind,
      ↓policy.createdAt.denotes.required_bind, Option.pure_def]

theorem OwnedRules.denotes (owned : OwnedRules) :
    Denotes OwnedRules.ofJson? owned.toJson owned := by
  have rules := Json.denotes_list fun rule (_ : rule ∈ owned.rules) => rule.denotes
  refine ⟨Json.plain_record (by simpa using ⟨.nat _, rules.plain⟩), ?_⟩
  simp [ofJson?, toJson, Json.fields?_record, Json.Field.required, (Json.denotes_uint32 _).read_eq,
    rules.read_eq]

namespace Snapshot

def IsReadable (snapshot : Snapshot) : Prop := ∀ policy ∈ snapshot.policies, policy.IsReadable

theorem denotes {snapshot : Snapshot} (h : snapshot.IsReadable) :
    Denotes ofJson? snapshot.toJson snapshot := by
  have policies := Json.denotes_list fun policy mem => Policy.denotes (h policy mem)
  have rules := Json.denotes_list fun owned (_ : owned ∈ snapshot.rules) => owned.denotes
  refine ⟨Json.plain_record (by simpa using ⟨policies.plain, rules.plain⟩), ?_⟩
  simp [ofJson?, toJson, Json.fields?_record, Json.Field.orElse, policies.read_eq, rules.read_eq]

/-- A snapshot is read from the text that is written for it, indented or not. -/
theorem read_back_in_both_layouts {snapshot : Snapshot} (h : snapshot.IsReadable) :
    ofText? snapshot.toJson.toText = some snapshot ∧
      ofText? snapshot.toJson.toIndentedText = some snapshot := by
  have ⟨plain, read⟩ := denotes h
  rw [ofText?, ofText?, Json.ofText?_toText plain, Json.ofText?_toIndentedText plain]
  exact ⟨read, read⟩

def mixed : Snapshot :=
  let rule (id : UInt64) (timeout : Timeout) : Rule :=
    { id, timeout, device := "rack\\1/\u4ea4", priority := 40000, table := 7, app := "\x01\x7f"
      selector := ⟨[.ethType 0x0800, .ipv4Dst ⟨⟨10, 0, 2, 9⟩, ⟨20, by decide⟩⟩, .udpDst 3784]⟩
      treatment := .readdress ⟨0xde, 0xad, 0, 0, 0, 0x0f⟩ 3 }
  { policies :=
      [{ id := 4294967295, name := "a \"b\"\n\u00e9", priority := 50, state := .installed
         version := 18446744073709551615, action := .inter, srcRegion := "west", dstRegion := ""
         srcHosts := [⟨⟨2, 0, 0, 0, 0, 1⟩, none⟩, ⟨⟨2, 0, 0, 0, 0, 2⟩, some 4095⟩], dstHosts := []
         partialPath := [⟨"rack/1 ", 9⟩], preference := .onDemand
         profile := { serial := 3, name := "", application := .videoStreaming,
                      criteria := [.inPort 1] }
         createdAt :=
          ⟨⟨2024, 2, 29, by decide⟩, ⟨23, by decide⟩, ⟨59, by decide⟩, ⟨60, by decide⟩,
            ⟨120000, by decide⟩⟩ }]
    rules :=
      [⟨4294967295, [rule 18446744073709551615 .permanent, rule 1 (.idle 30), rule 0 (.hard 0)]⟩] }

theorem mixed_read_back :
    mixed.IsReadable ∧ ofText? mixed.toJson.toText = some mixed ∧
      ofText? mixed.toJson.toIndentedText = some mixed := by
  have readable : mixed.IsReadable := by
    intro policy mem p mem'
    obtain rfl := List.mem_singleton.1 mem
    obtain rfl := List.mem_singleton.1 mem'
    exact ⟨by decide, fun c mem => by
      obtain rfl : 'r' = c := Option.some.inj mem
      decide⟩
  exact ⟨readable, read_back_in_both_layouts readable⟩

end Snapshot

end PolicyRouting
