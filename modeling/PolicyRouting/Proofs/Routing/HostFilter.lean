import PolicyRouting.Proofs.Routing.HeldPolicy

/-!
# The hosts that a policy lets pass

A route has to pass the host filter of its policy first.  The filter is given
the destination host itself, but of the source only the address in the frame.
Inside a region the source is the host of this address.  Between regions the
source is told by its IP where nobody is known under the address, and then the
filter has judged a stranger in place of the host that gets its path.  So the
filter holds for the two hosts of a path, whatever lists the policy has,
exactly where the source is known under the address in the frame.
-/

namespace PolicyRouting

namespace Directory

variable {d d' : Directory} {class_ : RouteClass} {frame : Frame} {header : Ipv4Header}
  {host : Host}

/-- Every host is kept under its own id. -/
def Filed (d : Directory) : Prop := ∀ id host, d.host? id = some host → host.id = id

theorem filed_empty : Filed empty := fun _ _ h => nomatch h

theorem Filed.add (filed : Filed d) (host : Host) : Filed (d.add host) :=
  Keyed.forall_insert filed rfl

theorem Filed.host?_of_host? (filed : Filed d) {id : HostId} (h : d.host? id = some host) :
    d.host? host.id = some host := by
  rw [filed id host h]
  exact h

theorem Filed.host?_of_mem_owners (filed : Filed d) {ip : Ipv4} (h : host ∈ d.owners ip) :
    d.host? host.id = some host := by
  obtain ⟨id, hid⟩ := HostTable.mem_walked_iff.1 (List.mem_filter.1 h).1
  exact filed.host?_of_host? hid

theorem Filed.host?_of_destination? (filed : Filed d)
    (h : d.destination? class_ frame header = some host) : d.host? host.id = some host := by
  cases class_ with
  | intra => exact filed.host?_of_host? h
  | inter => exact filed.host?_of_mem_owners (List.mem_of_mem_head? h)

theorem Filed.host?_of_source? (filed : Filed d)
    (h : d.source? class_ frame header = some host) : d.host? host.id = some host := by
  cases class_ with
  | intra => exact filed.host?_of_host? h
  | inter =>
      rcases Option.or_eq_some_iff.1 h with known | ⟨-, owner⟩
      · exact filed.host?_of_host? known
      · exact filed.host?_of_mem_owners (List.mem_of_mem_head? owner)

theorem source?_of_known (class_ : RouteClass) (header : Ipv4Header)
    (known : d.host? (.untagged frame.src) = some host) :
    d.source? class_ frame header = some host := by
  cases class_ with
  | intra => exact known
  | inter => simp [source?, known]

theorem Filed.known_iff (filed : Filed d) (h : d.source? class_ frame header = some host) :
    d.host? (.untagged frame.src) = some host ↔ host.id = .untagged frame.src := by
  constructor
  · exact filed _ host
  · intro same
    rw [← same]
    exact filed.host?_of_source? h

end Directory

/-! ## The filter of a policy -/

def Policy.withHosts (policy : Policy) (froms tos : List HostId) : Policy :=
  { policy with srcHosts := froms, dstHosts := tos }

theorem Settings.selector?_eq_some_iff_allows {settings : Settings} {class_ : RouteClass}
    {frame : Frame} {policy : Policy} {dstHost : HostId} {selector : Selector} :
    settings.selector? class_ frame policy dstHost = some selector ↔
      policy.allowsHosts (.untagged frame.src) dstHost = true ∧
      settings.selector? class_ frame (policy.withHosts [] []) dstHost = some selector := by
  have unfiltered : (policy.withHosts [] []).allowsHosts (.untagged frame.src) dstHost = true := rfl
  have same : ∀ carrier header,
      settings.criteria? class_ frame (policy.withHosts [] []) carrier header =
        settings.criteria? class_ frame policy carrier header := fun _ _ => rfl
  have application : (policy.withHosts [] []).application = policy.application := rfl
  simp only [selector?, application, unfiltered, same, if_pos]
  cases policy.allowsHosts (.untagged frame.src) dstHost <;> simp

namespace Scene

variable {scene : Scene} {class_ : RouteClass} {policy : Policy} {frame : Frame} {ends : Ends}
  {n : Nat} {met : Bool}

theorem ends?_eq_some_iff_allows : scene.ends? class_ policy frame = some ends ↔
    policy.allowsHosts (.untagged frame.src) (filteredId class_ frame ends.dst) = true ∧
      scene.ends? class_ (policy.withHosts [] []) frame = some ends := by
  rw [ends?_eq_some_iff, ends?_eq_some_iff]
  constructor
  · rintro ⟨header, hheader, hdst, hsrc, hselector⟩
    obtain ⟨allowed, unfiltered⟩ := Settings.selector?_eq_some_iff_allows.1 hselector
    exact ⟨allowed, header, hheader, hdst, hsrc, unfiltered⟩
  · rintro ⟨allowed, header, hheader, hdst, hsrc, unfiltered⟩
    exact ⟨header, hheader, hdst, hsrc,
      Settings.selector?_eq_some_iff_allows.2 ⟨allowed, unfiltered⟩⟩

theorem installed_withHosts_iff (hends : scene.ends? class_ policy frame = some ends)
    (installed : (scene.route class_ policy frame).1 = .installed n met) {froms tos : List HostId} :
    (∃ n met, (scene.route class_ (policy.withHosts froms tos) frame).1 = .installed n met) ↔
      (policy.withHosts froms tos).allowsHosts (.untagged frame.src)
        (filteredId class_ frame ends.dst) = true := by
  have unfiltered := (ends?_eq_some_iff_allows.1 hends).2
  constructor
  · rintro ⟨n, met, h⟩
    obtain ⟨-, found, -, hfound, -⟩ := exists_of_installed h
    obtain ⟨allowed, same⟩ := ends?_eq_some_iff_allows.1 hfound
    obtain rfl : ends = found := Option.some.inj (unfiltered.symm.trans same)
    exact allowed
  · intro allowed
    obtain ⟨current, found, links, hfound, hchosen, -⟩ := exists_of_installed installed
    obtain rfl : found = ends := Option.some.inj (hfound.symm.trans hends)
    have relisted : scene.ends? class_ (policy.withHosts froms tos) frame = some found :=
      ends?_eq_some_iff_allows.2 ⟨allowed, unfiltered⟩
    have active : scene.register.current.contains (policy.withHosts froms tos).id = true := current
    exact ⟨_, _, congrArg Prod.fst (route_of_current active relisted hchosen)⟩

theorem filteredId_of_ends? (filed : scene.directory.Filed)
    (hends : scene.ends? class_ policy frame = some ends) :
    filteredId class_ frame ends.dst = ends.dst.id := by
  obtain ⟨header, -, hdst, -, -⟩ := ends?_eq_some_iff.1 hends
  cases class_ with
  | intra => exact (filed _ ends.dst hdst).symm
  | inter => rfl

/-- A list of the frame's own address alone is only right if the source is known under it. -/
theorem known_of_allows_own (filed : scene.directory.Filed)
    (hends : scene.ends? class_ policy frame = some ends)
    (allowed : (policy.withHosts [.untagged frame.src] []).allowsHosts ends.src.id ends.dst.id =
      true) :
    scene.directory.host? (.untagged frame.src) = some ends.src := by
  obtain ⟨header, -, hdst, hsrc, -⟩ := ends?_eq_some_iff.1 hends
  have own : ends.src.id = .untagged frame.src ∨ ends.dst.id = .untagged frame.src := by
    simpa [Policy.allowsHosts, Policy.withHosts] using allowed
  rcases own with src | dst
  · exact (filed.known_iff hsrc).2 src
  · -- then the frame comes from its own destination
    have known : scene.directory.host? (.untagged frame.src) = some ends.dst := by
      rw [← dst]
      exact filed.host?_of_destination? hdst
    have same : ends.dst = ends.src :=
      Option.some.inj ((Directory.source?_of_known class_ header known).symm.trans hsrc)
    rw [known, same]

/--
A route that reports rules has written them along a walk between two hosts, of which the filter has
let the destination and the address in the frame pass.  Where the source is known under this
address, as always inside a region, the filter lets the two hosts pass; anywhere else there are
lists under which the same hosts are connected although the filter does not let them pass.
-/
theorem route_passes_host_filter (filed : scene.directory.Filed)
    (installed : (scene.route class_ policy frame).1 = .installed n met) :
    ∃ ends links, scene.ends? class_ policy frame = some ends ∧
      scene.graph.IsShortest ends.dst.location.device ends.src.location.device links ∧
      (scene.route class_ policy frame).2.register = scene.register.installAll
        ((scene.hopsAlong class_ policy ends links).map fun hop => ⟨policy.id, hop.rule⟩) ∧
      policy.allowsHosts (.untagged frame.src) ends.dst.id = true ∧
      (scene.directory.host? (.untagged frame.src) = some ends.src →
        policy.allowsHosts ends.src.id ends.dst.id = true) ∧
      (class_ = .intra → scene.directory.host? (.untagged frame.src) = some ends.src) ∧
      ((∀ froms tos, (∃ n met,
          (scene.route class_ (policy.withHosts froms tos) frame).1 = .installed n met) →
          (policy.withHosts froms tos).allowsHosts ends.src.id ends.dst.id = true) ↔
        scene.directory.host? (.untagged frame.src) = some ends.src) := by
  obtain ⟨-, ends, links, hends, hchosen, -, register⟩ := exists_of_installed installed
  obtain ⟨header, -, -, hsrc, -⟩ := ends?_eq_some_iff.1 hends
  -- the hosts do not depend on the lists, so every list is judged on the same two ids
  have passes_iff : ∀ froms tos, (∃ n met,
      (scene.route class_ (policy.withHosts froms tos) frame).1 = .installed n met) ↔
      (policy.withHosts froms tos).allowsHosts (.untagged frame.src) ends.dst.id = true := by
    intro froms tos
    rw [installed_withHosts_iff hends installed, filteredId_of_ends? filed hends]
  have passed : policy.allowsHosts (.untagged frame.src) ends.dst.id = true :=
    (passes_iff policy.srcHosts policy.dstHosts).1 ⟨n, met, installed⟩
  refine ⟨ends, links, hends, isShortest_of_chosen hchosen, register, passed, ?_, ?_, ?_⟩
  · intro known
    rw [filed _ _ known]
    exact passed
  · rintro rfl
    exact hsrc
  · constructor
    · intro all
      have own : (policy.withHosts [.untagged frame.src] []).allowsHosts (.untagged frame.src)
          ends.dst.id = true := by
        simp [Policy.allowsHosts, Policy.withHosts]
      apply known_of_allows_own filed hends
      exact all _ _ ((passes_iff _ _).2 own)
    · intro known froms tos h
      rw [filed _ _ known]
      exact (passes_iff froms tos).1 h

end Scene

theorem filed_lineDirectory : lineDirectory.Filed :=
  (Directory.filed_empty.add westHost).add eastHost

def lineUnder (policy : Policy) : Scene :=
  { lineScene with register := Register.empty.add policy }

def pairedPolicy : Policy := eastboundPolicy.withHosts [westHost.id] [eastHost.id]

theorem pairedPolicy_lets_hosts_pass :
    let scene := lineUnder pairedPolicy
    scene.directory.Filed ∧
    (scene.route .inter pairedPolicy eastboundFrame).1 = .installed 3 true ∧
    ∃ ends, scene.ends? .inter pairedPolicy eastboundFrame = some ends ∧
      pairedPolicy.allowsHosts ends.src.id ends.dst.id = true := by
  intro scene
  have filed : scene.directory.Filed := filed_lineDirectory
  have installed : (scene.route .inter pairedPolicy eastboundFrame).1 = .installed 3 true := by
    decide +kernel
  have found : (scene.ends? .inter pairedPolicy eastboundFrame).map Ends.src = some westHost := by
    decide +kernel
  have known : scene.directory.host? (.untagged eastboundFrame.src) = some westHost := by
    decide
  obtain ⟨ends, links, hends, -, -, -, governed, -⟩ :=
    Scene.route_passes_host_filter filed installed
  refine ⟨filed, installed, ends, hends, governed ?_⟩
  rw [hends, Option.map_some] at found
  rw [known, found]

def strayFrame : Frame := { eastboundFrame with src := ⟨2, 0, 0, 0, 0, 9⟩ }

def strayPolicy : Policy := eastboundPolicy.withHosts [.untagged strayFrame.src] []

/-- The policy does not let the west host pass, and connects it. -/
theorem strayPolicy_connects_west_host :
    ((lineUnder strayPolicy).route .inter strayPolicy strayFrame).1 = .installed 3 true ∧
    ((lineUnder strayPolicy).ends? .inter strayPolicy strayFrame).map
      (fun ends => (ends.src, ends.dst)) = some (westHost, eastHost) ∧
    strayPolicy.allowsHosts westHost.id eastHost.id = false := by
  decide +kernel

end PolicyRouting
