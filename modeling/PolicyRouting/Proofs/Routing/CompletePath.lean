import Mathlib.Data.List.Nodup
import PolicyRouting.Proofs.Routing.Runs

/-!
# A complete path or nothing

A route that reports rules has one rule in the devices for every device on a
walk between its hosts, and owns all of them; a route that reports anything
else leaves the register alone.  Two rules of one route differ in their device
only, so the digest has to keep the devices apart: `IdsApart` says so for the
content that a route writes, and without it one rule could replace another.
-/

namespace PolicyRouting

/-- Where a frame leaves the devices of a walk: onto the links, and at the end to the host. -/
def exits (links : List Link) (dst : ConnectPoint) : List ConnectPoint :=
  links.map (·.src) ++ [dst]

/-- What the rule at place `i` of a walk of `n` rules does, where the frame leaves by `port`. -/
def stepInstructions (readdressed : Option Mac) (n i : Nat) (port : UInt32) : List Instruction :=
  (if i = 0 ∧ 2 ≤ n then readdressed.toList.map .setEthDst else []) ++ [.output port]

section Exits

variable {g : Graph} {src : String} {links : List Link} {dst exit : ConnectPoint}

@[simp] theorem length_exits : (exits links dst).length = links.length + 1 := by simp [exits]

theorem map_device_exits (walk : g.IsWalk dst.device src links) :
    (exits links dst).map (·.device) = Graph.devicesFrom src links := by
  rw [← walk.map_src, exits, List.map_append, List.map_map]
  rfl

theorem RuleTemplate.getElem?_hops (t : RuleTemplate) (readdressed : Option Mac) {i : Nat}
    (h : (exits links dst)[i]? = some exit) :
    ∃ hop treatment, (t.hops readdressed links dst)[i]? = some hop ∧
      hop.rule = t.rule exit.device treatment ∧
      treatment.instructions =
        stepInstructions readdressed (links.length + 1) i exit.port := by
  cases links with
  | nil =>
      cases i with
      | zero =>
          obtain rfl : dst = exit := by simpa [exits] using h
          exact ⟨_, _, rfl, rfl, rfl⟩
      | succ i => simp [exits] at h
  | cons link rest =>
      cases i with
      | zero =>
          obtain rfl : link.src = exit := by simpa [exits] using h
          refine ⟨_, _, rfl, rfl, ?_⟩
          cases readdressed <;> simp [stepInstructions, firstTreatment, Treatment.forward,
            Treatment.readdress]
      | succ i =>
          have later : (exits rest dst)[i]? = some exit := by simpa [exits] using h
          have same : (t.hops readdressed (link :: rest) dst)[i + 1]? =
              (rest.map (t.linkHop none) ++ [t.lastHop dst])[i]? := by
            rw [hops, List.getElem?_cons_succ]
          rw [same]
          rcases Nat.lt_trichotomy i rest.length with hlt | rfl | hgt
          · have hexit : exit = rest[i].src := by
              simpa [exits, List.getElem?_append_left, hlt] using later.symm
            subst hexit
            refine ⟨t.linkHop none rest[i], .forward rest[i].src.port, ?_, rfl, ?_⟩
            · simp [List.getElem?_append_left, hlt]
            · simp [stepInstructions, Treatment.forward]
          · have hexit : exit = dst := by simpa [exits] using later.symm
            subst hexit
            refine ⟨t.lastHop exit, .forward exit.port, by simp, rfl, ?_⟩
            simp [stepInstructions, Treatment.forward]
          · have beyond : (exits rest dst).length ≤ i := by
              rw [length_exits]
              omega
            rw [List.getElem?_eq_none beyond] at later
            contradiction

end Exits

namespace Scene

variable {scene : Scene} {class_ : RouteClass} {policy : Policy} {frame : Frame}
  {selector : Selector} {ends : Ends} {links : List Link} {met : Bool}

def ruleId (scene : Scene) (policy : Policy) (selector : Selector) (device : String) : UInt64 :=
  Digest.ofBytes (Rule.contentBytes device selector policy.priority scene.settings.table
    scene.settings.app)

/-- Rules of one route for different devices of the graph have different ids. -/
def IdsApart (scene : Scene) (policy : Policy) (selector : Selector) : Prop :=
  ∀ device ∈ scene.graph.devices, ∀ other ∈ scene.graph.devices,
    scene.ruleId policy selector device = scene.ruleId policy selector other → device = other

instance (scene : Scene) (policy : Policy) (selector : Selector) :
    Decidable (scene.IdsApart policy selector) := by
  unfold IdsApart
  infer_instance

theorem id_of_mem_hopsAlong {hop : Hop} (h : hop ∈ scene.hopsAlong class_ policy ends links) :
    hop.rule.id = scene.ruleId policy ends.selector hop.rule.device := by
  obtain ⟨device, treatment, hrule⟩ := RuleTemplate.exists_of_mem_hops h
  rw [hrule]
  rfl

theorem map_device_hopsAlong (class_ : RouteClass) (policy : Policy)
    (walk : scene.graph.IsWalk ends.dst.location.device ends.src.location.device links) :
    (scene.hopsAlong class_ policy ends links).map (·.rule.device) =
      Graph.devicesFrom ends.src.location.device links := by
  rw [hopsAlong, RuleTemplate.map_device_hops, walk.map_src]

theorem hopsAlong_unique
    (short : scene.graph.IsShortest ends.dst.location.device ends.src.location.device links)
    (apart : scene.IdsApart policy ends.selector) {hop other : Hop}
    (hhop : hop ∈ scene.hopsAlong class_ policy ends links)
    (hother : other ∈ scene.hopsAlong class_ policy ends links)
    (hid : other.rule.id = hop.rule.id) : other = hop := by
  -- a shortest walk does not come back, so the device of a hop tells which one it is
  have devices := map_device_hopsAlong class_ policy short.1
  have nodup : ((scene.hopsAlong class_ policy ends links).map (·.rule.device)).Nodup := by
    rw [devices]
    exact short.nodup_devices
  refine List.inj_on_of_nodup_map nodup hother hhop ?_
  rw [id_of_mem_hopsAlong hhop, id_of_mem_hopsAlong hother] at hid
  by_cases still : links = []
  · -- one device only
    subst still
    have single : ∀ device ∈ (scene.hopsAlong class_ policy ends []).map (·.rule.device),
        device = ends.src.location.device := by
      rw [devices]
      exact fun device h => List.mem_singleton.1 h
    rw [single _ (List.mem_map_of_mem hother), single _ (List.mem_map_of_mem hhop)]
  · have visited : ∀ device ∈ (scene.hopsAlong class_ policy ends links).map (·.rule.device),
        device ∈ scene.graph.devices := by
      rw [devices]
      exact short.1.devices_mem still
    exact apart _ (visited _ (List.mem_map_of_mem hother)) _ (visited _ (List.mem_map_of_mem hhop))
      hid

theorem rule_at_exit (current : scene.register.current.contains policy.id = true)
    (hends : scene.ends? class_ policy frame = some ends)
    (hchosen : (scene.chosen policy ends.src.location.device ends.dst.location.device).1 =
      some (links, met))
    (apart : scene.IdsApart policy ends.selector) {i : Nat} {exit : ConnectPoint}
    (hexit : (exits links ends.dst.location)[i]? = some exit) :
    let after := scene.register.installAll (scene.installs class_ policy frame)
    ∃ rule, after.switches.rules.get? (scene.ruleId policy ends.selector exit.device) = some rule ∧
      rule.device = exit.device ∧ rule.selector = ends.selector ∧
      rule.priority = policy.priority ∧ rule.table = scene.settings.table ∧
      rule.app = scene.settings.app ∧ rule.timeout = scene.idle class_ ∧
      rule.treatment.instructions =
        stepInstructions (readdressed class_ ends.dst) (links.length + 1) i exit.port ∧
      scene.ruleId policy ends.selector exit.device ∈ (after.rulesOf policy.id).map Rule.id := by
  intro after
  obtain ⟨hop, treatment, hhop, hrule, hinstructions⟩ :=
    (scene.template class_ policy ends.selector).getElem?_hops (readdressed class_ ends.dst) hexit
  have mem : hop ∈ scene.hopsAlong class_ policy ends links := List.mem_of_getElem? hhop
  have hid : hop.rule.id = scene.ruleId policy ends.selector exit.device := by
    rw [hrule]
    rfl
  have along : scene.installs class_ policy frame =
      (scene.hopsAlong class_ policy ends links).map fun hop => ⟨policy.id, hop.rule⟩ := by
    rw [installs, hops_eq_hopsAlong hends hchosen]
  have active : ∀ install ∈ scene.installs class_ policy frame,
      scene.register.current.contains install.policy = true := current_of_mem_installs current
  have installed : (⟨policy.id, hop.rule⟩ : Register.Install) ∈
      scene.installs class_ policy frame := by
    rw [along]
    exact List.mem_map_of_mem mem
  have last : Register.lastInstall? (scene.installs class_ policy frame) hop.rule.id =
      some ⟨policy.id, hop.rule⟩ := by
    refine Register.lastInstall?_of_unique installed fun install hinstall hsame => ?_
    rw [along] at hinstall
    obtain ⟨other, hother, rfl⟩ := List.mem_map.1 hinstall
    rw [hopsAlong_unique (isShortest_of_chosen hchosen) apart mem hother hsame]
  refine ⟨hop.rule, ?_, ?_⟩
  · rw [← hid, Register.get?_installAll active, last]
    rfl
  · have owned : hop.rule.id ∈ (after.rulesOf policy.id).map Rule.id :=
      (Register.mem_rulesOf_installAll_iff active).2 (.inr ⟨_, installed, rfl, rfl⟩)
    rw [hid] at owned
    rw [hrule]
    exact ⟨rfl, rfl, rfl, rfl, rfl, rfl, hinstructions, owned⟩

/-! ## The whole route -/

/-- The links lead from host to host, and `after` holds and owns the rule of every step. -/
structure CompletePath (scene : Scene) (class_ : RouteClass) (policy : Policy) (src dst : Host)
    (selector : Selector) (links : List Link) (after : Register) : Prop where
  walk : scene.graph.IsWalk dst.location.device src.location.device links
  still : links = [] ↔ src.location.device = dst.location.device
  nodup : (Graph.devicesFrom src.location.device links).Nodup
  devices : (exits links dst.location).map (·.device) = Graph.devicesFrom src.location.device links
  held : ∀ i exit, (exits links dst.location)[i]? = some exit →
    ∃ rule, after.switches.rules.get? (scene.ruleId policy selector exit.device) = some rule ∧
      rule.device = exit.device ∧ rule.selector = selector ∧
      rule.priority = policy.priority ∧ rule.table = scene.settings.table ∧
      rule.app = scene.settings.app ∧ rule.timeout = scene.idle class_ ∧
      rule.treatment.instructions =
        stepInstructions (readdressed class_ dst) (links.length + 1) i exit.port ∧
      scene.ruleId policy selector exit.device ∈ (after.rulesOf policy.id).map Rule.id

/-- Outside the rules for these devices `after` is the register of the scene. -/
structure ChangesOnly (scene : Scene) (policy : Policy) (selector : Selector)
    (devices : List String) (after : Register) : Prop where
  held : ∀ id, (∀ device ∈ devices, scene.ruleId policy selector device ≠ id) →
    after.switches.rules.get? id = scene.register.switches.rules.get? id
  owned : ∃ more, after.rulesOf policy.id = scene.register.rulesOf policy.id ++ more ∧
    ∀ rule ∈ more, ∃ device ∈ devices, rule.id = scene.ruleId policy selector device
  others : ∀ id, id ≠ policy.id → after.rulesOf id = scene.register.rulesOf id
  current : after.current = scene.register.current
  pending : after.pending = scene.register.pending
  log : after.log = scene.register.log
  version : after.version = scene.register.version

theorem changesOnly_installAll (current : scene.register.current.contains policy.id = true)
    (hends : scene.ends? class_ policy frame = some ends)
    (hchosen : (scene.chosen policy ends.src.location.device ends.dst.location.device).1 =
      some (links, met)) :
    scene.ChangesOnly policy ends.selector (Graph.devicesFrom ends.src.location.device links)
      (scene.register.installAll (scene.installs class_ policy frame)) := by
  have walk := (isShortest_of_chosen hchosen).1
  have installed : ∀ install ∈ scene.installs class_ policy frame,
      ∃ device ∈ Graph.devicesFrom ends.src.location.device links,
        install.rule.id = scene.ruleId policy ends.selector device := by
    intro install h
    rw [installs, hops_eq_hopsAlong hends hchosen] at h
    obtain ⟨hop, hhop, rfl⟩ := List.mem_map.1 h
    refine ⟨hop.rule.device, ?_, id_of_mem_hopsAlong hhop⟩
    rw [← map_device_hopsAlong class_ policy walk]
    exact List.mem_map_of_mem hhop
  have active : ∀ install ∈ scene.installs class_ policy frame,
      scene.register.current.contains install.policy = true := current_of_mem_installs current
  obtain ⟨hcurrent, hpending, hlog, hversion⟩ :=
    Register.installAll_frame scene.register (scene.installs class_ policy frame)
  refine ⟨fun id h => ?_, ?_, fun id hid => ?_, hcurrent, hpending, hlog, hversion⟩
  · have untouched :
        Register.lastInstall? (scene.installs class_ policy frame) id = none := by
      refine Register.lastInstall?_eq_none fun install hinstall hsame => ?_
      obtain ⟨device, hdevice, heq⟩ := installed install hinstall
      exact h device hdevice (heq.symm.trans hsame)
    rw [Register.get?_installAll active, untouched]
    rfl
  · obtain ⟨more, hmore, from_route⟩ := Register.exists_rulesOf_installAll scene.register
      (scene.installs class_ policy frame) policy.id
    exact ⟨more, hmore, fun rule h => installed _ (from_route rule h)⟩
  · obtain ⟨more, hmore, from_route⟩ := Register.exists_rulesOf_installAll scene.register
      (scene.installs class_ policy frame) id
    have nothing : more = [] := by
      refine List.eq_nil_iff_forall_not_mem.2 fun rule h => hid ?_
      exact policy_of_mem_installs (from_route rule h)
    rw [hmore, nothing, List.append_nil]

/--
A route that reports `n` rules has found both hosts and the selector, and `n` devices carry a walk
between the hosts; apart from the rules of these devices the register is as before.  A route that
reports anything else leaves the register as it was.
-/
theorem route_installs_complete_path_or_nothing
    (apart : ∀ ends ∈ scene.ends? class_ policy frame, scene.IdsApart policy ends.selector) :
    let after := scene.route class_ policy frame
    (∀ n met, after.1 = .installed n met →
      ∃ header src dst selector links, frame.ipv4? = some header ∧
        scene.directory.source? class_ frame header = some src ∧
        scene.directory.destination? class_ frame header = some dst ∧
        scene.settings.selector? class_ frame policy (filteredId class_ frame dst) =
          some selector ∧
        links.length + 1 = n ∧
        scene.CompletePath class_ policy src dst selector links after.2.register ∧
        scene.ChangesOnly policy selector (Graph.devicesFrom src.location.device links)
          after.2.register) ∧
    ((∀ n met, after.1 ≠ .installed n met) → after.2.register = scene.register) := by
  intro after
  rcases (route_cases scene class_ policy frame).2 with
    ⟨same, -, not_installed, -⟩ | ⟨current, ends, links, met, hends, hchosen, outcome, register⟩
  · exact ⟨fun n met h => absurd h (not_installed n met), fun _ => same⟩
  · refine ⟨fun n met' h => ?_, fun h => absurd outcome (h _ _)⟩
    have counted : links.length + 1 = n := by
      have := outcome.symm.trans h
      simp only [RouteOutcome.installed.injEq] at this
      exact this.1
    obtain ⟨header, hheader, hdst, hsrc, hselector⟩ := ends?_eq_some_iff.1 hends
    have short := isShortest_of_chosen hchosen
    refine ⟨header, ends.src, ends.dst, ends.selector, links, hheader, hsrc, hdst, hselector,
      counted, ?_, ?_⟩
    · rw [register]
      exact ⟨short.1, short.eq_nil_iff, short.nodup_devices, map_device_exits short.1,
        fun i exit hexit => rule_at_exit current hends hchosen (apart ends hends) hexit⟩
    · rw [register]
      exact changesOnly_installAll current hends hchosen

end Scene

/-! ## Three devices in a line -/

def lineGraph : Graph :=
  (Graph.empty.addBoth ⟨⟨"a", 2⟩, ⟨"b", 1⟩⟩).addBoth ⟨⟨"b", 2⟩, ⟨"c", 1⟩⟩

def eastboundPolicy : Policy where
  id := 0
  name := "WEB:eastbound"
  priority := 50
  state := .installRequested
  version := 1
  action := .inter
  srcRegion := "west"
  dstRegion := "east"
  srcHosts := []
  dstHosts := []
  partialPath := []
  preference := .bestPossible
  profile := ⟨1, "eastbound", .web, []⟩
  createdAt := .ofEpochNanos 0

def lineScene : Scene where
  settings := {}
  graph := lineGraph
  directory := lineDirectory
  register := Register.empty.add eastboundPolicy
  chooser := {}

theorem lineScene_route_complete :
    (∀ ends ∈ lineScene.ends? .inter eastboundPolicy eastboundFrame,
      lineScene.IdsApart eastboundPolicy ends.selector) ∧
    ∃ src dst selector links, links.length + 1 = 3 ∧
      lineScene.CompletePath .inter eastboundPolicy src dst selector links
        (lineScene.route .inter eastboundPolicy eastboundFrame).2.register := by
  have apart : ∀ ends ∈ lineScene.ends? .inter eastboundPolicy eastboundFrame,
      lineScene.IdsApart eastboundPolicy ends.selector := by decide +kernel
  have installed : (lineScene.route .inter eastboundPolicy eastboundFrame).1 =
      .installed 3 true := by decide +kernel
  obtain ⟨_, src, dst, selector, links, -, -, -, -, three, complete, -⟩ :=
    (Scene.route_installs_complete_path_or_nothing apart).1 3 true installed
  exact ⟨apart, src, dst, selector, links, three, complete⟩

end PolicyRouting
