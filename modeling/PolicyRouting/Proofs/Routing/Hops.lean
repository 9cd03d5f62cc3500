import PolicyRouting.Proofs.Fabric.PathSearch
import PolicyRouting.Proofs.Policy.Installs
import PolicyRouting.Routing.Engine

/-!
# What a route writes

A route first finds its two ends and the selector, then a walk between the
ends, and then writes one rule for each hop.  The hops are computed here apart
from the writing: `route` leaves the register that installing the rules of the
hops leaves, and everything else it changes is the chooser and the list of
watched addresses.
-/

namespace PolicyRouting

/-- A rule of a route, and the link onto which it forwards; the last one forwards to the host. -/
structure Hop where
  rule : Rule
  link : Option Link
  deriving DecidableEq, Repr

namespace RuleTemplate

def lastHop (t : RuleTemplate) (dst : ConnectPoint) : Hop :=
  ⟨t.rule dst.device (.forward dst.port), none⟩

def linkHop (t : RuleTemplate) (readdressed : Option Mac) (link : Link) : Hop :=
  ⟨t.rule link.src.device (firstTreatment readdressed link.src.port), some link⟩

def hops (t : RuleTemplate) (readdressed : Option Mac) (links : List Link)
    (dst : ConnectPoint) : List Hop :=
  match links with
  | [] => [t.lastHop dst]
  | link :: links =>
      t.linkHop readdressed link :: (links.map (t.linkHop none) ++ [t.lastHop dst])

variable {t : RuleTemplate} {readdressed : Option Mac} {links : List Link} {dst : ConnectPoint}

theorem map_rule_hops : (t.hops readdressed links dst).map Hop.rule =
    t.pathRules readdressed links dst := by
  cases links with
  | nil => rfl
  | cons link links =>
      simp [hops, pathRules, linkRules, linkHop, lastHop, firstTreatment, Function.comp_def]

@[simp] theorem length_hops : (t.hops readdressed links dst).length = links.length + 1 := by
  cases links <;> simp [hops]

theorem hops_ne_nil : t.hops readdressed links dst ≠ [] := by
  cases links <;> simp [hops]

theorem map_device_hops : (t.hops readdressed links dst).map (·.rule.device) =
    links.map (·.src.device) ++ [dst.device] := by
  cases links with
  | nil => rfl
  | cons link links =>
      simp [hops, linkHop, lastHop, RuleTemplate.rule, Rule.make, Function.comp_def]

theorem exists_of_mem_hops {hop : Hop} (h : hop ∈ t.hops readdressed links dst) :
    ∃ device treatment, hop.rule = t.rule device treatment := by
  cases links with
  | nil =>
      obtain rfl := List.mem_singleton.1 h
      exact ⟨_, _, rfl⟩
  | cons link links =>
      simp only [hops, List.mem_cons, List.mem_append, List.mem_map, List.not_mem_nil,
        or_false] at h
      rcases h with rfl | ⟨link, -, rfl⟩ | rfl
      · exact ⟨_, _, rfl⟩
      · exact ⟨_, _, rfl⟩
      · exact ⟨_, _, rfl⟩

@[simp] theorem outputPort?_firstTreatment (readdressed : Option Mac) (port : UInt32) :
    (firstTreatment readdressed port).outputPort? = some port := by
  cases readdressed <;> rfl

theorem forwards_of_mem_hops {hop : Hop} (h : hop ∈ t.hops readdressed links dst) :
    (∃ link ∈ links, hop.link = some link ∧ hop.rule.device = link.src.device ∧
      hop.rule.treatment.outputPort? = some link.src.port) ∨
    (hop.link = none ∧ hop.rule.device = dst.device ∧
      hop.rule.treatment.outputPort? = some dst.port) := by
  cases links with
  | nil =>
      obtain rfl := List.mem_singleton.1 h
      exact .inr ⟨rfl, rfl, rfl⟩
  | cons link links =>
      simp only [hops, List.mem_cons, List.mem_append, List.mem_map, List.not_mem_nil,
        or_false] at h
      rcases h with rfl | ⟨next, hnext, rfl⟩ | rfl
      · exact .inl ⟨link, List.mem_cons_self, rfl, rfl, outputPort?_firstTreatment _ _⟩
      · exact .inl ⟨next, List.mem_cons_of_mem _ hnext, rfl, rfl, rfl⟩
      · exact .inr ⟨rfl, rfl, rfl⟩

end RuleTemplate

namespace Directory

def watchAll (d : Directory) (ips : List Ipv4) : Directory := ips.foldl watch d

@[simp] theorem watchAll_nil (d : Directory) : d.watchAll [] = d := rfl

@[simp] theorem watchAll_cons (d : Directory) (ip : Ipv4) (ips : List Ipv4) :
    d.watchAll (ip :: ips) = (d.watch ip).watchAll ips := rfl

@[simp] theorem hosts_watchAll (d : Directory) (ips : List Ipv4) :
    (d.watchAll ips).hosts = d.hosts := by
  induction ips generalizing d with
  | nil => rfl
  | cons ip ips ih =>
      rw [watchAll_cons, ih, watch]
      split <;> rfl

end Directory

structure Ends where
  src : Host
  dst : Host
  selector : Selector
  deriving DecidableEq, Repr

namespace Scene

variable {scene scene' : Scene} {class_ : RouteClass} {policy : Policy} {frame : Frame}
  {ends : Ends}

/-- The host that a policy's filter sees as the destination. -/
def filteredId (class_ : RouteClass) (frame : Frame) (dst : Host) : HostId :=
  match class_ with
  | .intra => .untagged frame.dst
  | .inter => dst.id

/-- The two hosts and the selector, where the policy routes the frame at all. -/
def ends? (scene : Scene) (class_ : RouteClass) (policy : Policy) (frame : Frame) :
    Option Ends := do
  let header ← frame.ipv4?
  let dst ← scene.directory.destination? class_ frame header
  let src ← scene.directory.source? class_ frame header
  let selector ← scene.settings.selector? class_ frame policy (filteredId class_ frame dst)
  return ⟨src, dst, selector⟩

theorem ends?_eq_some_iff : scene.ends? class_ policy frame = some ends ↔
    ∃ header, frame.ipv4? = some header ∧
      scene.directory.destination? class_ frame header = some ends.dst ∧
      scene.directory.source? class_ frame header = some ends.src ∧
      scene.settings.selector? class_ frame policy (filteredId class_ frame ends.dst) =
        some ends.selector := by
  obtain ⟨src, dst, selector⟩ := ends
  simp only [ends?, Option.bind_eq_bind, Option.bind_eq_some_iff, Option.pure_def,
    Option.some.injEq, Ends.mk.injEq]
  constructor
  · rintro ⟨header, hheader, dst, hdst, src, hsrc, selector, hselector, rfl, rfl, rfl⟩
    exact ⟨header, hheader, hdst, hsrc, hselector⟩
  · rintro ⟨header, hheader, hdst, hsrc, hselector⟩
    exact ⟨header, hheader, dst, hdst, src, hsrc, selector, hselector, rfl, rfl, rfl⟩

theorem ends?_congr (settings : scene'.settings = scene.settings)
    (hosts : scene'.directory.hosts = scene.directory.hosts) :
    scene'.ends? class_ policy frame = scene.ends? class_ policy frame := by
  have host : ∀ id, scene'.directory.host? id = scene.directory.host? id := fun id => by
    rw [Directory.host?, hosts, Directory.host?]
  have owners : ∀ ip, scene'.directory.owners ip = scene.directory.owners ip := fun ip => by
    rw [Directory.owners, hosts, Directory.owners]
  cases class_ with
  | intra =>
      simp only [ends?, settings, Directory.destination?, Directory.source?, host]
  | inter =>
      simp only [ends?, settings, Directory.destination?, Directory.source?, host, owners]

/-! ## The walk that is chosen -/

/-- The links of the route and whether they honour the partial path, and the chooser after it. -/
def chosen (scene : Scene) (policy : Policy) (src dst : String) :
    Option (List Link × Bool) × Chooser :=
  if src = dst then (some ([], true), scene.chooser)
  else
    let (choice, chooser) := scene.chooser.chooseFor policy (scene.graph.shortestPaths src dst)
    (choice.map fun choice => (choice.path.links, choice.meetsConstraint), chooser)

theorem mem_of_choose {chooser : Chooser} {preference : PathPreference} {candidates : List Path}
    {required : List ConnectPoint} {choice : Choice}
    (h : (chooser.choose preference candidates required).1 = some choice) :
    choice.path ∈ candidates := by
  cases candidates with
  | nil => simp [Chooser.choose] at h
  | cons first others =>
      have constrained : (constrainedChoice required first others).path ∈ first :: others := by
        unfold constrainedChoice
        split
        · exact List.mem_of_find?_eq_some ‹_›
        · exact List.getLast_mem _
      cases preference with
      | random =>
          obtain rfl : _ = choice := Option.some.inj h
          have bound : chooser.chance chooser.counts.random % (others.length + 1) <
              (first :: others).length := Nat.mod_lt _ (Nat.succ_pos _)
          rw [randomChoice, List.getD, List.getElem?_eq_getElem bound]
          exact List.getElem_mem _
      | equalCost | bestPossible | onDemand =>
          obtain rfl : _ = choice := Option.some.inj h
          exact constrained

theorem choose_eq_none_iff {chooser : Chooser} {preference : PathPreference}
    {candidates : List Path} {required : List ConnectPoint} :
    (chooser.choose preference candidates required).1 = none ↔ candidates = [] := by
  cases candidates with
  | nil => simp [Chooser.choose]
  | cons first others => cases preference <;> simp [Chooser.choose]

variable {src dst : String} {links : List Link} {met : Bool}

theorem isShortest_of_chosen (h : (scene.chosen policy src dst).1 = some (links, met)) :
    scene.graph.IsShortest dst src links := by
  unfold chosen at h
  split at h
  · obtain ⟨rfl, -⟩ : [] = links ∧ true = met := by simpa using h
    exact ⟨‹src = dst›, fun _ _ => Nat.zero_le _⟩
  · obtain ⟨choice, hchoice, heq⟩ := Option.map_eq_some_iff.1 h
    obtain ⟨rfl, -⟩ := Prod.mk.inj heq
    exact Graph.isShortest_of_mem_shortestPaths (mem_of_choose hchoice)

theorem chosen_eq_none_iff : (scene.chosen policy src dst).1 = none ↔
    src ≠ dst ∧ scene.graph.shortestPaths src dst = [] := by
  unfold chosen
  split
  · simp [*]
  · simp only [Option.map_eq_none_iff, Chooser.chooseFor, choose_eq_none_iff, ne_eq, *,
      not_false_eq_true, true_and]

/-! ## The hops -/

def template (scene : Scene) (class_ : RouteClass) (policy : Policy) (selector : Selector) :
    RuleTemplate :=
  ⟨selector, policy.priority, scene.idle class_, scene.settings.table, scene.settings.app⟩

def readdressed (class_ : RouteClass) (dst : Host) : Option Mac :=
  match class_ with
  | .intra => none
  | .inter => some dst.id.mac

def hopsAlong (scene : Scene) (class_ : RouteClass) (policy : Policy) (ends : Ends)
    (links : List Link) : List Hop :=
  (scene.template class_ policy ends.selector).hops (readdressed class_ ends.dst) links
    ends.dst.location

/-- What routing the frame under the policy writes, in order. -/
def hops (scene : Scene) (class_ : RouteClass) (policy : Policy) (frame : Frame) : List Hop :=
  match scene.ends? class_ policy frame with
  | none => []
  | some ends =>
      match (scene.chosen policy ends.src.location.device ends.dst.location.device).1 with
      | none => []
      | some (links, _) => scene.hopsAlong class_ policy ends links

theorem hops_eq_nil_of_ends (h : scene.ends? class_ policy frame = none) :
    scene.hops class_ policy frame = [] := by
  rw [hops, h]

theorem hops_eq_nil_of_chosen (h : scene.ends? class_ policy frame = some ends)
    (hchosen : (scene.chosen policy ends.src.location.device ends.dst.location.device).1 = none) :
    scene.hops class_ policy frame = [] := by
  simp only [hops, h, hchosen]

theorem hops_eq_hopsAlong (h : scene.ends? class_ policy frame = some ends)
    (hchosen : (scene.chosen policy ends.src.location.device ends.dst.location.device).1 =
      some (links, met)) :
    scene.hops class_ policy frame = scene.hopsAlong class_ policy ends links := by
  simp only [hops, h, hchosen]

theorem hops_cases (scene : Scene) (class_ : RouteClass) (policy : Policy) (frame : Frame) :
    scene.hops class_ policy frame = [] ∨
    ∃ ends links met, scene.ends? class_ policy frame = some ends ∧
      (scene.chosen policy ends.src.location.device ends.dst.location.device).1 =
        some (links, met) ∧
      scene.hops class_ policy frame = scene.hopsAlong class_ policy ends links := by
  cases h : scene.ends? class_ policy frame with
  | none => exact .inl (hops_eq_nil_of_ends h)
  | some ends =>
      cases hchosen :
          (scene.chosen policy ends.src.location.device ends.dst.location.device).1 with
      | none => exact .inl (hops_eq_nil_of_chosen h hchosen)
      | some choice =>
          exact .inr ⟨ends, choice.1, choice.2, rfl, hchosen, hops_eq_hopsAlong h hchosen⟩

/-! ## Routing -/

/-- The addresses that a route starts to watch: that of a destination that nobody is known to be. -/
def sought (scene : Scene) (class_ : RouteClass) (frame : Frame) : List Ipv4 :=
  match frame.ipv4? with
  | none => []
  | some header =>
      match scene.directory.destination? class_ frame header with
      | none => [header.dst]
      | some _ => []

theorem route_of_no_ends (h : scene.ends? class_ policy frame = none) :
    ∃ outcome, outcome ∈ [.noSelector, .sourceUnknown, .destinationUnknown] ∧
      scene.route class_ policy frame =
        (outcome, { scene with
          directory := scene.directory.watchAll (scene.sought class_ frame) }) := by
  unfold route sought
  cases hheader : frame.ipv4? with
  | none => exact ⟨.noSelector, by simp, rfl⟩
  | some header =>
      simp only
      cases hdst : scene.directory.destination? class_ frame header with
      | none => exact ⟨.destinationUnknown, by simp, rfl⟩
      | some dst =>
          simp only
          cases hsrc : scene.directory.source? class_ frame header with
          | none => exact ⟨.sourceUnknown, by simp, rfl⟩
          | some src =>
              simp only
              cases hselector :
                  scene.settings.selector? class_ frame policy (filteredId class_ frame dst) with
              | none =>
                  refine ⟨.noSelector, by simp, ?_⟩
                  cases class_ <;> simp only [filteredId] at hselector <;> simp only [hselector] <;>
                    rfl
              | some selector =>
                  have found : scene.ends? class_ policy frame = some ⟨src, dst, selector⟩ :=
                    ends?_eq_some_iff.2 ⟨header, hheader, hdst, hsrc, hselector⟩
                  rw [found] at h
                  contradiction

theorem route_eq_connect (h : scene.ends? class_ policy frame = some ends) :
    scene.route class_ policy frame =
      scene.connect class_ policy ends.src ends.dst ends.selector := by
  obtain ⟨header, hheader, hdst, hsrc, hselector⟩ := ends?_eq_some_iff.1 h
  cases class_ <;> simp only [filteredId] at hselector <;>
    simp only [route, hheader, hdst, hsrc, hselector]

theorem connect_of_not_chosen
    (h : (scene.chosen policy ends.src.location.device ends.dst.location.device).1 = none) :
    scene.connect class_ policy ends.src ends.dst ends.selector =
      (.noPath, { scene with chooser :=
        (scene.chosen policy ends.src.location.device ends.dst.location.device).2 }) := by
  unfold chosen at h ⊢
  unfold connect
  by_cases same : ends.src.location.device = ends.dst.location.device
  · simp [same] at h
  · simp only [if_neg same] at h ⊢
    generalize scene.chooser.chooseFor policy _ = picked at h ⊢
    obtain ⟨choice, chooser⟩ := picked
    obtain rfl : choice = none := Option.map_eq_none_iff.1 h
    rfl

theorem connect_of_chosen
    (h : (scene.chosen policy ends.src.location.device ends.dst.location.device).1 =
      some (links, met)) :
    scene.connect class_ policy ends.src ends.dst ends.selector =
      { scene with chooser :=
        (scene.chosen policy ends.src.location.device ends.dst.location.device).2 }.install policy
          ((scene.hopsAlong class_ policy ends links).map Hop.rule) met := by
  rw [hopsAlong, RuleTemplate.map_rule_hops]
  unfold chosen at h ⊢
  unfold connect
  by_cases same : ends.src.location.device = ends.dst.location.device
  · simp only [if_pos same, Option.some.injEq, Prod.mk.injEq] at h ⊢
    obtain ⟨rfl, rfl⟩ := h
    rfl
  · simp only [if_neg same] at h ⊢
    generalize scene.chooser.chooseFor policy _ = picked at h ⊢
    obtain ⟨choice, chooser⟩ := picked
    obtain ⟨choice, rfl, heq⟩ := Option.map_eq_some_iff.1 h
    obtain ⟨rfl, rfl⟩ := Prod.mk.inj heq
    cases class_ <;> rfl

theorem installRules_of_current {r : Register} {id : PolicyId}
    (h : r.current.contains id = true) (rules : List Rule) :
    r.installRules id rules = (true, r.installAll (rules.map (⟨id, ·⟩))) := by
  induction rules generalizing r with
  | nil => rfl
  | cons rule rules ih =>
      have next := Register.installRule_of_current h rule
      rw [List.map_cons, Register.installAll_cons]
      simp only [Register.installRules, next]
      exact ih h

theorem installRules_of_not_current {r : Register} {id : PolicyId}
    (h : r.current.contains id = false) {rules : List Rule} (hrules : rules ≠ []) :
    r.installRules id rules = (false, r) := by
  cases rules with
  | nil => contradiction
  | cons rule rules => simp only [Register.installRules, Register.installRule, h]; rfl

def installs (scene : Scene) (class_ : RouteClass) (policy : Policy) (frame : Frame) :
    List Register.Install :=
  (scene.hops class_ policy frame).map fun hop => ⟨policy.id, hop.rule⟩

theorem policy_of_mem_installs {install : Register.Install}
    (h : install ∈ scene.installs class_ policy frame) : install.policy = policy.id := by
  obtain ⟨hop, -, rfl⟩ := List.mem_map.1 h
  rfl

theorem current_of_mem_installs (current : scene.register.current.contains policy.id = true) :
    ∀ install ∈ scene.installs class_ policy frame,
      scene.register.current.contains install.policy = true := by
  intro install h
  rw [policy_of_mem_installs h]
  exact current

theorem route_of_current (current : scene.register.current.contains policy.id = true)
    (hends : scene.ends? class_ policy frame = some ends)
    (hchosen : (scene.chosen policy ends.src.location.device ends.dst.location.device).1 =
      some (links, met)) :
    scene.route class_ policy frame =
      (.installed (links.length + 1) met,
        { scene with
          chooser := (scene.chosen policy ends.src.location.device ends.dst.location.device).2
          register := scene.register.installAll (scene.installs class_ policy frame) }) := by
  rw [route_eq_connect hends, connect_of_chosen hchosen, install, installs,
    hops_eq_hopsAlong hends hchosen]
  simp only [installRules_of_current current, List.map_map, List.length_map, hopsAlong,
    RuleTemplate.length_hops]
  rfl

theorem route_of_not_current (gone : scene.register.current.contains policy.id = false)
    (hends : scene.ends? class_ policy frame = some ends)
    (hchosen : (scene.chosen policy ends.src.location.device ends.dst.location.device).1 =
      some (links, met)) :
    scene.route class_ policy frame =
      (.withdrawn, { scene with chooser :=
        (scene.chosen policy ends.src.location.device ends.dst.location.device).2 }) := by
  have some_rule : (scene.hopsAlong class_ policy ends links).map Hop.rule ≠ [] := by
    simp [hopsAlong, RuleTemplate.hops_ne_nil]
  rw [route_eq_connect hends, connect_of_chosen hchosen, install]
  simp only [installRules_of_not_current gone some_rule]

structure SameFabric (scene scene' : Scene) : Prop where
  settings : scene'.settings = scene.settings
  graph : scene'.graph = scene.graph
  hosts : scene'.directory.hosts = scene.directory.hosts

theorem SameFabric.refl (scene : Scene) : SameFabric scene scene := ⟨rfl, rfl, rfl⟩

theorem SameFabric.trans {scene'' : Scene} (first : SameFabric scene scene')
    (second : SameFabric scene' scene'') : SameFabric scene scene'' :=
  ⟨second.settings.trans first.settings, second.graph.trans first.graph,
    second.hosts.trans first.hosts⟩

/-- A route writes nothing and says so, or it writes its hops and counts them. -/
theorem route_cases (scene : Scene) (class_ : RouteClass) (policy : Policy) (frame : Frame) :
    let after := scene.route class_ policy frame
    SameFabric scene after.2 ∧
    ((after.2.register = scene.register ∧ Engine.rulesIn after.1 = 0 ∧
        (∀ n met, after.1 ≠ .installed n met) ∧
        (scene.register.current.contains policy.id = true →
          scene.hops class_ policy frame = [])) ∨
      (scene.register.current.contains policy.id = true ∧
        ∃ ends links met, scene.ends? class_ policy frame = some ends ∧
          (scene.chosen policy ends.src.location.device ends.dst.location.device).1 =
            some (links, met) ∧
          after.1 = .installed (links.length + 1) met ∧
          after.2.register =
            scene.register.installAll (scene.installs class_ policy frame))) := by
  intro after
  cases hends : scene.ends? class_ policy frame with
  | none =>
      obtain ⟨outcome, unrouted, hroute⟩ := route_of_no_ends hends
      have hafter : after = _ := hroute
      rw [hafter]
      simp only [List.mem_cons, List.not_mem_nil, or_false] at unrouted
      refine ⟨⟨rfl, rfl, scene.directory.hosts_watchAll _⟩, .inl ⟨rfl, ?_, ?_, fun _ =>
        hops_eq_nil_of_ends hends⟩⟩ <;> rcases unrouted with rfl | rfl | rfl <;> simp [Engine.rulesIn]
  | some ends =>
      cases hchosen :
          (scene.chosen policy ends.src.location.device ends.dst.location.device).1 with
      | none =>
          have hafter : after = _ :=
            (route_eq_connect hends).trans (connect_of_not_chosen hchosen)
          rw [hafter]
          exact ⟨⟨rfl, rfl, rfl⟩, .inl ⟨rfl, rfl, by simp, fun _ =>
            hops_eq_nil_of_chosen hends hchosen⟩⟩
      | some choice =>
          obtain ⟨links, met⟩ := choice
          cases active : scene.register.current.contains policy.id with
          | false =>
              have hafter : after = _ := route_of_not_current active hends hchosen
              rw [hafter]
              exact ⟨⟨rfl, rfl, rfl⟩, .inl ⟨rfl, rfl, by simp, by simp⟩⟩
          | true =>
              have hafter : after = _ := route_of_current active hends hchosen
              rw [hafter]
              exact ⟨⟨rfl, rfl, rfl⟩, .inr ⟨rfl, ends, links, met, rfl, hchosen, rfl, rfl⟩⟩

theorem exists_of_installed {n : Nat}
    (h : (scene.route class_ policy frame).1 = .installed n met) :
    scene.register.current.contains policy.id = true ∧
      ∃ ends links, scene.ends? class_ policy frame = some ends ∧
        (scene.chosen policy ends.src.location.device ends.dst.location.device).1 =
          some (links, met) ∧
        links.length + 1 = n ∧
        (scene.route class_ policy frame).2.register = scene.register.installAll
          ((scene.hopsAlong class_ policy ends links).map fun hop => ⟨policy.id, hop.rule⟩) := by
  rcases (route_cases scene class_ policy frame).2 with
    ⟨-, -, not_installed, -⟩ | ⟨current, ends, links, met', hends, hchosen, outcome, register⟩
  · exact absurd h (not_installed n met)
  · rw [outcome, RouteOutcome.installed.injEq] at h
    obtain ⟨counted, rfl⟩ := h
    rw [installs, hops_eq_hopsAlong hends hchosen] at register
    exact ⟨current, ends, links, hends, hchosen, counted, register⟩

theorem route_sameFabric : SameFabric scene (scene.route class_ policy frame).2 :=
  (route_cases scene class_ policy frame).1

theorem route_register (class_ : RouteClass) (frame : Frame)
    (current : scene.register.current.contains policy.id = true) :
    (scene.route class_ policy frame).2.register =
      scene.register.installAll (scene.installs class_ policy frame) := by
  rcases (route_cases scene class_ policy frame).2 with
    ⟨same, -, -, empty⟩ | ⟨-, ends, links, met, -, -, -, installed⟩
  · rw [same, installs, empty current]
    rfl
  · exact installed

theorem register_route (scene : Scene) (class_ : RouteClass) (policy : Policy) (frame : Frame) :
    (scene.route class_ policy frame).2.register =
      scene.register.installAll (scene.installs class_ policy frame) := by
  cases current : scene.register.current.contains policy.id with
  | true => exact route_register class_ frame current
  | false =>
      have refused : scene.register.installAll (scene.installs class_ policy frame) =
          scene.register := by
        have rules := Register.installAll_of_not_current current
          ((scene.hops class_ policy frame).map Hop.rule)
        rw [List.map_map] at rules
        exact rules
      rcases (route_cases scene class_ policy frame).2 with ⟨same, -⟩ | ⟨active, -⟩
      · rw [same, refused]
      · rw [current] at active
        contradiction

theorem rulesIn_route (current : scene.register.current.contains policy.id = true) :
    Engine.rulesIn (scene.route class_ policy frame).1 =
      (scene.hops class_ policy frame).length := by
  rcases (route_cases scene class_ policy frame).2 with
    ⟨-, none_in, -, empty⟩ | ⟨-, ends, links, met, hends, hchosen, installed, -⟩
  · rw [none_in, empty current]
    rfl
  · rw [installed, hops_eq_hopsAlong hends hchosen, hopsAlong, RuleTemplate.length_hops]
    rfl

end Scene

end PolicyRouting
