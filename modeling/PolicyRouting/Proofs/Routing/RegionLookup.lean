import PolicyRouting.Proofs.Address.Networks
import PolicyRouting.Proofs.Routing.Additions

/-!
# What a region lookup finds

A prefix serves an address under a length if it is an IPv4 network of exactly
this length that covers the address.  The region of the address under the
length is that of the last prefix that serves it: clearing bits gives the key
of the table and the key of the lookup, which are the same key exactly for a
prefix that serves, and a later prefix takes the place of an earlier one.  All
prefixes are in the two other views, so an address with a region is local, and
so is its network.  An engine only ever looks into the table of the last
configuration that was loaded.
-/

namespace PolicyRouting

namespace RegionTable

variable {table : RegionTable} {entries : List LocalPrefix}

theorem get?_enter (table : RegionTable) (entry : LocalPrefix) (net : Ipv4Net) :
    (table.enter entry).regions.get? net =
      if entry.net.base = .v4 net then some entry.region else table.regions.get? net := by
  simp only [enter]
  cases entry.net.base with
  | v4 key => simp [rank_inj]
  | v6 key => simp

theorem get?_foldl_enter (net : Ipv4Net) :
    (entries.foldl enter table).regions.get? net =
      ((entries.reverse.find? fun entry => entry.net.base = .v4 net).map (·.region)).or
        (table.regions.get? net) := by
  induction entries generalizing table with
  | nil => rfl
  | cons entry rest ih =>
      rw [List.foldl_cons, ih, get?_enter, List.reverse_cons, List.find?_append]
      cases (rest.reverse.find? fun entry => entry.net.base = .v4 net) with
      | some last => rfl
      | none => by_cases h : entry.net.base = .v4 net <;> simp [h]

theorem nets_foldl_enter :
    (entries.foldl enter table).nets = table.nets ++ entries.map (·.net.base) := by
  induction entries generalizing table with
  | nil => simp
  | cons entry rest ih => rw [List.foldl_cons, ih]; simp [enter]

theorem mem_gateways_foldl_enter {ip : Ip} :
    ip ∈ (entries.foldl enter table).gateways ↔
      ip ∈ table.gateways ∨ ∃ entry ∈ entries, entry.gateway = ip := by
  induction entries generalizing table with
  | nil => simp
  | cons entry rest ih =>
      rw [List.foldl_cons, ih]
      simp only [enter, List.mem_insert_iff, List.mem_cons, exists_eq_or_imp]
      grind

theorem gatewayMac_foldl_enter :
    (entries.foldl enter table).gatewayMac = table.gatewayMac := by
  induction entries generalizing table with
  | nil => rfl
  | cons entry rest ih => rw [List.foldl_cons, ih]; rfl

end RegionTable

/-- The prefix is an IPv4 network of this length that covers the address. -/
def LocalPrefix.Serves (entry : LocalPrefix) (ip : Ipv4) (length : UInt8) : Prop :=
  ∃ net, entry.net = .v4 net ∧ (net.length : Nat) = length.toNat ∧ net.Covers ip

def Regions.LastServing (regions : Regions) (ip : Ipv4) (length : UInt8) (entry : LocalPrefix) :
    Prop :=
  ∃ before after, regions.locals = before ++ entry :: after ∧ entry.Serves ip length ∧
    ∀ later ∈ after, ¬ later.Serves ip length

namespace Regions

variable {regions : Regions} {ip : Ipv4} {length : UInt8} {region : String}

theorem gatewayMac_table (regions : Regions) : regions.table.gatewayMac = regions.gatewayMac :=
  RegionTable.gatewayMac_foldl_enter

theorem isGateway_table_iff {ip : Ip} :
    regions.table.isGateway ip = true ↔ ∃ entry ∈ regions.locals, entry.gateway = ip := by
  rw [RegionTable.isGateway, List.contains_iff_mem, table, RegionTable.mem_gateways_foldl_enter]
  simp [RegionTable.empty]

theorem nets_table (regions : Regions) :
    regions.table.nets = regions.locals.map (·.net.base) := by
  rw [table, RegionTable.nets_foldl_enter]
  rfl

/-! ## Lookups -/

theorem lt_of_serves {entry : LocalPrefix} (h : entry.Serves ip length) : length.toNat < 33 := by
  obtain ⟨net, -, same, -⟩ := h
  exact same ▸ net.length.isLt

theorem base_eq_iff_serves {entry : LocalPrefix} (h : length.toNat < 33) :
    entry.net.base = .v4 (Ipv4Net.base ⟨ip, ⟨length.toNat, h⟩⟩) ↔ entry.Serves ip length := by
  cases hnet : entry.net with
  | v6 net => simp [IpNet.base, LocalPrefix.Serves, hnet]
  | v4 net =>
      simp only [IpNet.base, IpNet.v4.injEq, Ipv4Net.base_eq_base_iff, LocalPrefix.Serves, hnet,
        exists_eq_left', Fin.ext_iff]

theorem regionOfIp?_table (h : length.toNat < 33) :
    regions.table.regionOfIp? ip length =
      (regions.locals.reverse.find? fun entry =>
        entry.net.base = .v4 (Ipv4Net.base ⟨ip, ⟨length.toNat, h⟩⟩)).map (·.region) := by
  have key : Ipv4Net.around? ip length.toNat = some (Ipv4Net.base ⟨ip, ⟨length.toNat, h⟩⟩) := by
    rw [Ipv4Net.around?, Ipv4Net.of?, dif_pos h, Option.map_some]
  rw [RegionTable.regionOfIp?, key, Option.bind_some, RegionTable.regionOf?, Ipv4Net.base_base,
    table, RegionTable.get?_foldl_enter]
  exact Option.or_none

theorem regionOfIp?_table_of_long (h : ¬ length.toNat < 33) :
    regions.table.regionOfIp? ip length = none := by
  rw [RegionTable.regionOfIp?, Ipv4Net.around?, Ipv4Net.of?, dif_neg h]
  rfl

theorem lastServing_iff (h : length.toNat < 33) {entry : LocalPrefix} :
    regions.LastServing ip length entry ↔
      (regions.locals.reverse.find? fun entry =>
        entry.net.base = .v4 (Ipv4Net.base ⟨ip, ⟨length.toNat, h⟩⟩)) = some entry := by
  simp only [List.find?_eq_some_iff_append, Bool.not_eq_eq_eq_not, decide_eq_true_eq, Bool.not_true,
    decide_eq_false_iff_not, base_eq_iff_serves, LastServing]
  constructor
  · rintro ⟨before, after, split, serves, last⟩
    refine ⟨serves, after.reverse, before.reverse, ?_, fun later hlater => ?_⟩
    · rw [split, List.reverse_append, List.reverse_cons, List.append_assoc, List.singleton_append]
    · exact last later (List.mem_reverse.1 hlater)
  · rintro ⟨serves, after, before, split, last⟩
    refine ⟨before.reverse, after.reverse, ?_, serves, fun later hlater => ?_⟩
    · rw [← List.reverse_reverse regions.locals, split, List.reverse_append, List.reverse_cons,
        List.append_assoc, List.singleton_append]
    · exact last later (List.mem_reverse.1 hlater)

theorem regionOfIp?_eq_some_iff :
    regions.table.regionOfIp? ip length = some region ↔
      ∃ entry, regions.LastServing ip length entry ∧ entry.region = region := by
  by_cases h : length.toNat < 33
  · rw [regionOfIp?_table h, Option.map_eq_some_iff]
    simp only [lastServing_iff h]
  · rw [regionOfIp?_table_of_long h]
    constructor
    · intro found
      contradiction
    · rintro ⟨entry, ⟨before, after, -, serves, -⟩, -⟩
      exact absurd (lt_of_serves serves) h

theorem regionOfIp?_eq_none_iff :
    regions.table.regionOfIp? ip length = none ↔
      ∀ entry ∈ regions.locals, ¬ entry.Serves ip length := by
  by_cases h : length.toNat < 33
  · rw [regionOfIp?_table h, Option.map_eq_none_iff, List.find?_eq_none]
    simp only [List.mem_reverse, decide_eq_true_eq, base_eq_iff_serves]
  · rw [regionOfIp?_table_of_long h]
    exact iff_of_true rfl fun entry _ serves => h (lt_of_serves serves)

theorem isLocal_of_serves {entry : LocalPrefix} (mem : entry ∈ regions.locals)
    (serves : entry.Serves ip length) : regions.table.isLocal (.v4 ip) = true := by
  obtain ⟨net, hnet, -, covers⟩ := serves
  rw [RegionTable.isLocal, nets_table, List.any_map]
  refine List.any_eq_true.2 ⟨entry, mem, ?_⟩
  simpa only [Function.comp, hnet, IpNet.base, IpNet.contains, Ipv4Net.contains_base] using
    Ipv4Net.contains_iff.2 covers

theorem isLocalNet_of_serves {entry : LocalPrefix} (mem : entry ∈ regions.locals)
    (serves : entry.Serves ip length) {net : Ipv4Net} (same : (net.length : Nat) = length.toNat)
    (covers : net.Covers ip) : regions.table.isLocalNet (.v4 net) = true := by
  obtain ⟨served, hnet, length, coversServed⟩ := serves
  have bits : served.base = net.base := by
    refine Ipv4Net.base_eq_base_iff.2 ⟨Fin.ext (length.trans same.symm), fun i hi => ?_⟩
    exact (covers i (by omega)).symm.trans (coversServed i hi)
  rw [RegionTable.isLocalNet, nets_table, List.contains_iff_mem]
  refine List.mem_map.2 ⟨entry, mem, ?_⟩
  rw [hnet]
  exact congrArg IpNet.v4 bits

end Regions

/-! ## Reloading -/

namespace Engine

/-- A new configuration of the regions, or any other step. -/
inductive Stage where
  | reload (regions : Regions)
  | perform (op : Operation)

def stage (e : Engine) : Stage → Engine
  | .reload regions => e.reload regions
  | .perform op => e.perform op

def lastLoaded (first : Regions) (stages : List Stage) : Regions :=
  stages.foldl (fun loaded stage => match stage with
    | .reload regions => regions
    | .perform _ => loaded) first

theorem regions_perform (e : Engine) (op : Operation) : (e.perform op).regions = e.regions := by
  cases op with
  | process receiver data => exact regions_process e receiver data
  | _ => rfl

theorem regions_foldl_stage {e : Engine} {loaded : Regions} (h : e.regions = loaded.table)
    (stages : List Stage) :
    (stages.foldl stage e).regions = (lastLoaded loaded stages).table := by
  induction stages generalizing e loaded with
  | nil => exact h
  | cons next rest ih =>
      cases next with
      | reload regions => exact ih rfl
      | perform op => exact ih ((regions_perform e op).trans h)

end Engine

/--
The region of an address under a length is that of the last prefix that serves it, and there is
none without such a prefix or for more than 32 bits.  An address with a region is local, and its
network too, whatever stands behind the leading bits.  After any history of an engine, all lookups
are those in the table of the configuration that was loaded last.
-/
theorem lookups_follow_last_configuration :
    (∀ (regions : Regions) ip length region,
      regions.table.regionOfIp? ip length = some region ↔
        ∃ entry, regions.LastServing ip length entry ∧ entry.region = region) ∧
    (∀ (regions : Regions) ip length,
      regions.table.regionOfIp? ip length = none ↔
        32 < length ∨ ∀ entry ∈ regions.locals, ¬ entry.Serves ip length) ∧
    (∀ (regions : Regions) ip length region,
      regions.table.regionOfIp? ip length = some region →
        regions.table.isLocal (.v4 ip) = true ∧
        ∀ net : Ipv4Net, (net.length : Nat) = length.toNat → net.Covers ip →
          regions.table.isLocalNet (.v4 net) = true) ∧
    ∀ settings register (first : Regions) (stages : List Engine.Stage),
      (stages.foldl Engine.stage (.start settings first register)).regions =
        (Engine.lastLoaded first stages).table := by
  refine ⟨fun _ _ _ _ => Regions.regionOfIp?_eq_some_iff, ?_, ?_, fun _ _ _ stages =>
    Engine.regions_foldl_stage rfl stages⟩
  · intro regions ip length
    rw [Regions.regionOfIp?_eq_none_iff]
    refine ⟨.inr, ?_⟩
    rintro (long | nothing)
    · intro entry _ serves
      have short := Regions.lt_of_serves serves
      have : 32 < length.toNat := UInt8.lt_iff_toNat_lt.1 long
      omega
    · exact nothing
  · intro regions ip length region h
    obtain ⟨entry, ⟨before, after, split, serves, -⟩, -⟩ := Regions.regionOfIp?_eq_some_iff.1 h
    have mem : entry ∈ regions.locals := by simp [split]
    exact ⟨Regions.isLocal_of_serves mem serves, fun net same covers =>
      Regions.isLocalNet_of_serves mem serves same covers⟩

def layeredRegions : Regions where
  locals := [
    ⟨.v4 ⟨⟨10, 0, 2, 0⟩, ⟨23, by decide⟩⟩, .v4 ⟨10, 0, 2, 254⟩, "office"⟩,
    ⟨.v4 ⟨⟨10, 0, 3, 77⟩, ⟨23, by decide⟩⟩, .v4 ⟨10, 0, 3, 254⟩, "lab"⟩,
    ⟨.v4 ⟨⟨10, 0, 0, 0⟩, ⟨16, by decide⟩⟩, .v4 ⟨10, 0, 0, 254⟩, "site"⟩,
    ⟨.v6 ⟨Ipv6.ofNat 0, ⟨0, by decide⟩⟩, .v6 (Ipv6.ofNat 1), "beyond"⟩]

theorem layeredRegions_given_again :
    layeredRegions.table.regionOfIp? ⟨10, 0, 2, 1⟩ 23 = some "lab" ∧
      layeredRegions.table.isLocal (.v4 ⟨10, 0, 2, 1⟩) = true ∧
      layeredRegions.table.isLocalNet (.v4 ⟨⟨10, 0, 3, 200⟩, ⟨23, by decide⟩⟩) = true := by
  have found : layeredRegions.table.regionOfIp? ⟨10, 0, 2, 1⟩ 23 = some "lab" := by
    decide +kernel
  obtain ⟨isLocal, nets⟩ := lookups_follow_last_configuration.2.2.1 _ _ _ _ found
  refine ⟨found, isLocal, nets _ rfl (Ipv4Net.contains_iff.1 ?_)⟩
  decide

end PolicyRouting
