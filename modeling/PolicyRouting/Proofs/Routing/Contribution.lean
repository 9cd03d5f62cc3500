import PolicyRouting.Proofs.Routing.Runs

/-!
# What a packet adds

As long as no policy chooses its paths at random, what becomes of a packet
depends on the settings, the links, the hosts, the regions and the current
policies, and no packet changes these.  Everything else that a packet changes
it adds to: counters grow, addresses are watched and frames are sent.  It adds
to every engine what it adds to a blank one, that is to an engine with the same
ground that has done nothing yet.
-/

namespace PolicyRouting

instance : Add Counters where
  add a b :=
    { packets := a.packets + b.packets
      control := a.control + b.control
      notIpv4 := a.notIpv4 + b.notIpv4
      arpReplies := a.arpReplies + b.arpReplies
      unknownRegion := a.unknownRegion + b.unknownRegion
      policyMatches := a.policyMatches + b.policyMatches
      rulesInstalled := a.rulesInstalled + b.rulesInstalled
      hostsUnknown := a.hostsUnknown + b.hostsUnknown
      selectorsRejected := a.selectorsRejected + b.selectorsRejected
      pathFallbacks := a.pathFallbacks + b.pathFallbacks }

instance : Add ChoiceCounts where
  add a b :=
    { selections := a.selections + b.selections
      random := a.random + b.random
      satisfied := a.satisfied + b.satisfied
      fallbacks := a.fallbacks + b.fallbacks
      empty := a.empty + b.empty }

theorem Counters.add_def (a b : Counters) : a + b =
    ⟨a.packets + b.packets, a.control + b.control, a.notIpv4 + b.notIpv4,
      a.arpReplies + b.arpReplies, a.unknownRegion + b.unknownRegion,
      a.policyMatches + b.policyMatches, a.rulesInstalled + b.rulesInstalled,
      a.hostsUnknown + b.hostsUnknown, a.selectorsRejected + b.selectorsRejected,
      a.pathFallbacks + b.pathFallbacks⟩ := rfl

theorem ChoiceCounts.add_def (a b : ChoiceCounts) : a + b =
    ⟨a.selections + b.selections, a.random + b.random, a.satisfied + b.satisfied,
      a.fallbacks + b.fallbacks, a.empty + b.empty⟩ := rfl

theorem Counters.add_assoc (a b c : Counters) : a + b + c = a + (b + c) := by
  simp only [Counters.add_def, Nat.add_assoc]

theorem Counters.add_right_comm (a b c : Counters) : a + b + c = a + c + b := by
  simp only [Counters.add_def, Nat.add_right_comm]

theorem ChoiceCounts.add_assoc (a b c : ChoiceCounts) : a + b + c = a + (b + c) := by
  simp only [ChoiceCounts.add_def, Nat.add_assoc]

theorem ChoiceCounts.add_right_comm (a b c : ChoiceCounts) : a + b + c = a + c + b := by
  simp only [ChoiceCounts.add_def, Nat.add_right_comm]

@[simp] theorem Counters.add_zero (a : Counters) : a + {} = a := rfl

@[simp] theorem Counters.zero_add (a : Counters) : {} + a = a := by
  simp only [Counters.add_def, Nat.zero_add]

@[simp] theorem ChoiceCounts.add_zero (a : ChoiceCounts) : a + {} = a := rfl

theorem ChoiceCounts.noted_eq_add (counts : ChoiceCounts) (kind : Option ChoiceKind) :
    counts.noted kind = counts + ({} : ChoiceCounts).noted kind := by
  rcases kind with - | - | - | - <;> simp [noted, ChoiceCounts.add_def]

theorem Engine.Counters.noted_eq_add (counters : PolicyRouting.Counters) (outcome : RouteOutcome) :
    Counters.noted counters outcome = counters + Counters.noted {} outcome := by
  cases outcome <;> simp [Counters.noted, PolicyRouting.Counters.add_def]

section Choose

variable {chooser chooser' : Chooser} {preference : PathPreference}

theorem choose_eq (fixed : preference ≠ .random) (candidates : List Path)
    (required : List ConnectPoint) :
    (chooser.choose preference candidates required).1 =
      (chooser'.choose preference candidates required).1 := by
  cases candidates with
  | nil => rfl
  | cons first others =>
      cases preference with
      | random => contradiction
      | equalCost | bestPossible | onDemand => rfl

theorem counts_choose (fixed : preference ≠ .random) (candidates : List Path)
    (required : List ConnectPoint) :
    (chooser.choose preference candidates required).2.counts =
      chooser.counts + (({} : Chooser).choose preference candidates required).2.counts := by
  cases candidates with
  | nil => exact chooser.counts.noted_eq_add none
  | cons first others =>
      cases preference with
      | random => contradiction
      | equalCost | bestPossible | onDemand => exact chooser.counts.noted_eq_add (some _)

end Choose

/-! ## Routes -/

namespace Scene

/-- The same settings, links, hosts and policies, and nothing done yet. -/
def blank (scene : Scene) : Scene where
  settings := scene.settings
  graph := scene.graph
  directory := ⟨scene.directory.hosts, []⟩
  register := { Register.empty with current := scene.register.current }
  chooser := {}

/-- The scene changes by what the share shows, and its ground stays. -/
structure Adds (scene after share : Scene) : Prop where
  blank_eq : after.blank = scene.blank
  choices : after.chooser.counts = scene.chooser.counts + share.chooser.counts
  watched : ∀ ip, ip ∈ after.directory.watched ↔
    ip ∈ scene.directory.watched ∨ ip ∈ share.directory.watched

variable {scene after share : Scene} {class_ : RouteClass} {policy : Policy} {frame : Frame}

theorem Adds.refl (scene : Scene) : Adds scene scene scene.blank :=
  ⟨rfl, rfl, fun ip => by simp [blank]⟩

theorem Adds.trans {after' share' step : Scene} (first : Adds scene after share)
    (second : Adds after after' step) (second' : Adds share share' step) :
    Adds scene after' share' := by
  refine ⟨second.blank_eq.trans first.blank_eq, ?_, fun ip => ?_⟩
  · rw [second.choices, first.choices, second'.choices, ChoiceCounts.add_assoc]
  · rw [second.watched, first.watched, second'.watched, or_assoc]

theorem adds_watch (scene : Scene) (ip : Ipv4) :
    Adds scene { scene with directory := scene.directory.watch ip }
      { scene.blank with directory := scene.blank.directory.watch ip } := by
  refine ⟨?_, rfl, fun other => ?_⟩
  · simp only [blank, Directory.watch]
    split <;> rfl
  · simp only [blank, Directory.watch]
    by_cases h : ip ∈ scene.directory.watched
    · simp only [List.contains_eq_mem, h, decide_true, if_true, List.not_mem_nil, decide_false]
      simp only [Bool.false_eq_true, if_false, List.nil_append, List.mem_singleton]
      exact (or_iff_left_of_imp fun same => same ▸ h).symm
    · simp [h]

theorem ends?_blank (scene : Scene) (class_ : RouteClass) (policy : Policy) (frame : Frame) :
    scene.blank.ends? class_ policy frame = scene.ends? class_ policy frame :=
  ends?_congr rfl rfl

theorem chosen_blank (fixed : policy.preference ≠ .random) (src dst : String) :
    (scene.blank.chosen policy src dst).1 = (scene.chosen policy src dst).1 := by
  unfold chosen
  split
  · rfl
  · exact congrArg (Option.map fun choice : Choice => (choice.path.links, choice.meetsConstraint))
      (choose_eq fixed _ policy.partialPath)

theorem adds_chosen (scene : Scene) (fixed : policy.preference ≠ .random) (src dst : String) :
    Adds scene { scene with chooser := (scene.chosen policy src dst).2 }
      { scene.blank with chooser := (scene.blank.chosen policy src dst).2 } := by
  refine ⟨rfl, ?_, fun ip => by simp [blank]⟩
  unfold chosen
  split
  · rfl
  · exact counts_choose fixed _ policy.partialPath

theorem Adds.installAll (adds : Adds scene after share)
    (installs installs' : List Register.Install) :
    Adds scene { after with register := after.register.installAll installs }
      { share with register := share.register.installAll installs' } := by
  refine ⟨?_, adds.choices, adds.watched⟩
  rw [← adds.blank_eq]
  simp only [blank, Register.installAll_current]

theorem route_adds_of_no_ends (none_found : scene.ends? class_ policy frame = none) :
    (scene.route class_ policy frame).1 = (scene.blank.route class_ policy frame).1 ∧
      Adds scene (scene.route class_ policy frame).2
        (scene.blank.route class_ policy frame).2 := by
  have destination : ∀ header, scene.blank.directory.destination? class_ frame header =
      scene.directory.destination? class_ frame header := by
    cases class_ <;> exact fun _ => rfl
  have source : ∀ header, scene.blank.directory.source? class_ frame header =
      scene.directory.source? class_ frame header := by
    cases class_ <;> exact fun _ => rfl
  unfold route
  cases hheader : frame.ipv4? with
  | none => exact ⟨rfl, .refl scene⟩
  | some header =>
      simp only [destination]
      cases hdst : scene.directory.destination? class_ frame header with
      | none => exact ⟨rfl, adds_watch scene header.dst⟩
      | some dst =>
          simp only [source]
          cases hsrc : scene.directory.source? class_ frame header with
          | none => exact ⟨rfl, .refl scene⟩
          | some src =>
              have rejected : scene.settings.selector? class_ frame policy
                  (filteredId class_ frame dst) = none := by
                refine Option.eq_none_iff_forall_ne_some.2 fun selector hselector => ?_
                have found : scene.ends? class_ policy frame = some ⟨src, dst, selector⟩ :=
                  ends?_eq_some_iff.2 ⟨header, hheader, hdst, hsrc, hselector⟩
                rw [found] at none_found
                contradiction
              have rejected' : scene.blank.settings.selector? class_ frame policy
                  (filteredId class_ frame dst) = none := rejected
              cases class_ <;> simp only [filteredId] at rejected rejected' <;>
                simp only [rejected, rejected'] <;> exact ⟨trivial, .refl scene⟩

theorem route_adds (fixed : policy.preference ≠ .random) (scene : Scene) (class_ : RouteClass)
    (frame : Frame) :
    (scene.route class_ policy frame).1 = (scene.blank.route class_ policy frame).1 ∧
      Adds scene (scene.route class_ policy frame).2
        (scene.blank.route class_ policy frame).2 := by
  cases hends : scene.ends? class_ policy frame with
  | none => exact route_adds_of_no_ends hends
  | some ends =>
      have hends' := (scene.ends?_blank class_ policy frame).trans hends
      have adds := adds_chosen scene fixed ends.src.location.device ends.dst.location.device
      cases hchosen :
          (scene.chosen policy ends.src.location.device ends.dst.location.device).1 with
      | none =>
          have hchosen' := (chosen_blank fixed _ _).trans hchosen
          rw [route_eq_connect hends, route_eq_connect hends', connect_of_not_chosen hchosen,
            connect_of_not_chosen hchosen']
          exact ⟨rfl, adds⟩
      | some choice =>
          have hchosen' := (chosen_blank fixed _ _).trans hchosen
          cases current : scene.register.current.contains policy.id with
          | false =>
              have current' : scene.blank.register.current.contains policy.id = false := current
              rw [route_of_not_current current hends hchosen,
                route_of_not_current current' hends' hchosen']
              exact ⟨rfl, adds⟩
          | true =>
              have current' : scene.blank.register.current.contains policy.id = true := current
              rw [route_of_current current hends hchosen,
                route_of_current current' hends' hchosen']
              exact ⟨rfl, adds.installAll _ _⟩

theorem hops_blank (fixed : policy.preference ≠ .random) (scene : Scene) (class_ : RouteClass)
    (frame : Frame) :
    scene.blank.hops class_ policy frame = scene.hops class_ policy frame := by
  unfold hops
  rw [ends?_blank]
  cases hends : scene.ends? class_ policy frame with
  | none => rfl
  | some ends =>
      simp only [chosen_blank fixed]
      cases (scene.chosen policy ends.src.location.device ends.dst.location.device).1 with
      | none => rfl
      | some choice => cases class_ <;> rfl

theorem writes_eq_flatMap {policies : List Policy}
    (fixed : ∀ policy ∈ policies, policy.preference ≠ .random) (scene : Scene) (frame : Frame) :
    scene.writes frame policies = policies.flatMap fun policy =>
      (scene.hops policy.action policy frame).map (⟨policy.id, ·⟩) := by
  induction policies generalizing scene with
  | nil => rfl
  | cons policy rest ih =>
      have first := fixed policy List.mem_cons_self
      have others : ∀ other ∈ rest, other.preference ≠ .random :=
        fun other h => fixed other (List.mem_cons_of_mem _ h)
      have ground := (route_adds first scene policy.action frame).2.blank_eq
      rw [writes, ih others, List.flatMap_cons]
      refine congrArg _ (List.flatMap_congr fun other h => ?_)
      rw [← hops_blank (others other h), ground, hops_blank (others other h)]

end Scene

/-! ## Packets -/

namespace Engine

def blank (e : Engine) : Engine where
  scene := e.scene.blank
  regions := e.regions
  outbox := .empty
  counters := {}
  active := e.active

structure Adds (e after share : Engine) : Prop where
  scene : e.scene.Adds after.scene share.scene
  regions : after.regions = e.regions
  active : after.active = e.active
  counters : after.counters = e.counters + share.counters
  sent : after.outbox.sent = e.outbox.sent ++ share.outbox.sent

variable {e after share : Engine} {frame : Frame} {policies : List Policy}

theorem Adds.blank_eq (adds : Adds e after share) : after.blank = e.blank := by
  simp only [blank, adds.scene.blank_eq, adds.regions, adds.active]

theorem Adds.refl (e : Engine) : Adds e e e.blank :=
  ⟨.refl e.scene, rfl, rfl, rfl, (List.append_nil _).symm⟩

theorem Adds.trans {after' share' step : Engine} (first : Adds e after share)
    (second : Adds after after' step) (second' : Adds share share' step) :
    Adds e after' share' := by
  refine ⟨first.scene.trans second.scene second'.scene, second.regions.trans first.regions,
    second.active.trans first.active, ?_, ?_⟩
  · rw [second.counters, first.counters, second'.counters, Counters.add_assoc]
  · rw [second.sent, first.sent, second'.sent, List.append_assoc]

theorem adds_count (e : Engine) (counters : PolicyRouting.Counters) :
    Adds e { e with counters := e.counters + counters }
      { e.blank with counters := e.blank.counters + counters } := by
  refine ⟨.refl e.scene, rfl, rfl, ?_, (List.append_nil _).symm⟩
  simp only [blank, Counters.zero_add]

/-- On every engine of one ground the step gives the same answer and adds the same. -/
def Uniform {α : Type} (ground : Engine) (step : Engine → α × Engine) : Prop :=
  ∀ e, e.blank = ground → (step e).1 = (step ground).1 ∧ Adds e (step e).2 (step ground).2

theorem Uniform.comp {α β : Type} {first : Engine → α × Engine}
    (uniform : Uniform e.blank first) (second : α → Engine → β × Engine)
    (uniform' : ∀ a, Uniform e.blank (second a)) :
    Uniform e.blank fun e => second (first e).1 (first e).2 := by
  intro e' same
  obtain ⟨answer, adds⟩ := uniform e' same
  -- the blank engine is of its own ground
  obtain ⟨-, own⟩ := uniform e.blank rfl
  obtain ⟨answer', later⟩ := uniform' (first e').1 _ (adds.blank_eq.trans same)
  obtain ⟨own_answer, own_later⟩ := uniform' (first e').1 _ own.blank_eq
  simp only [← answer]
  exact ⟨answer'.trans own_answer.symm, adds.trans later own_later⟩

theorem uniform_of_same {α : Type} (a : α) : Uniform e.blank fun e => (a, e) := by
  intro e' same
  rw [← same]
  exact ⟨rfl, .refl e'⟩

theorem uniform_count {α : Type} (a : α) (counters : PolicyRouting.Counters) :
    Uniform e.blank fun e => (a, { e with counters := e.counters + counters }) := by
  intro e' same
  rw [← same]
  exact ⟨rfl, adds_count e' counters⟩

def routeUnder (frame : Frame) (policy : Policy) (e : Engine) : Nat × Engine :=
  let (outcome, scene) := e.scene.route policy.action policy frame
  (rulesIn outcome, { e with scene, counters := Counters.noted e.counters outcome })

theorem uniform_routeUnder {policy : Policy} (fixed : policy.preference ≠ .random)
    (frame : Frame) : Uniform e.blank (routeUnder frame policy) := by
  intro e' same
  rw [← same]
  obtain ⟨outcome, adds⟩ := Scene.route_adds fixed e'.scene policy.action frame
  refine ⟨congrArg rulesIn outcome, adds, rfl, rfl, ?_, (List.append_nil _).symm⟩
  simp only [routeUnder]
  rw [Counters.noted_eq_add e'.counters, outcome]
  rfl

theorem uniform_routeAll (fixed : ∀ policy ∈ policies, policy.preference ≠ .random)
    (frame : Frame) : Uniform e.blank fun e => e.routeAll frame policies := by
  induction policies with
  | nil => exact uniform_of_same 0
  | cons policy rest ih =>
      have first := uniform_routeUnder (e := e) (fixed policy List.mem_cons_self) frame
      have others := ih fun other h => fixed other (List.mem_cons_of_mem _ h)
      -- under the first policy, then under the others, and the two numbers are added
      refine first.comp (fun rules e =>
        (rules + (e.routeAll frame rest).1, (e.routeAll frame rest).2)) fun rules => ?_
      exact others.comp (fun more e => (rules + more, e)) fun more =>
        uniform_of_same (rules + more)

/-- No policy of the register chooses its paths at random. -/
def Steady (e : Engine) : Prop :=
  ∀ policy ∈ e.scene.register.policies, policy.preference ≠ .random

theorem fixed_of_mem_policiesFor (steady : Steady e) (src dst : String) :
    ∀ policy ∈ e.policiesFor src dst, policy.preference ≠ .random :=
  fun policy h => steady policy (List.mem_filter.1 h).1

/-- No policy under which the packet is routed chooses its paths at random. -/
def ChanceFree (e : Engine) (data : Bytes) : Prop :=
  ∀ frame src dst, Frame.ofBytes? data = some frame → e.regionsOf? frame = some (src, dst) →
    ∀ policy ∈ e.policiesFor src dst, policy.preference ≠ .random

theorem Steady.chanceFree (steady : Steady e) (data : Bytes) : ChanceFree e data :=
  fun _ src dst _ _ => fixed_of_mem_policiesFor steady src dst

section Ground

variable {e' : Engine} (same : e'.blank = e.blank)

include same

theorem regions_eq : e'.regions = e.regions := by
  change e'.blank.regions = e.blank.regions
  rw [same]

theorem regionOf?_eq (ip : Ipv4) : e'.regionOf? ip = e.regionOf? ip := by
  change e'.blank.regionOf? ip = e.blank.regionOf? ip
  rw [same]

theorem policiesFor_eq (src dst : String) : e'.policiesFor src dst = e.policiesFor src dst := by
  change e'.blank.policiesFor src dst = e.blank.policiesFor src dst
  rw [same]

theorem hops_eq {policy : Policy} (fixed : policy.preference ≠ .random) (class_ : RouteClass)
    (frame : Frame) : e'.scene.hops class_ policy frame = e.scene.hops class_ policy frame := by
  have ground : e'.scene.blank = e.scene.blank := congrArg Engine.scene same
  rw [← Scene.hops_blank fixed, ground, Scene.hops_blank fixed]

end Ground

theorem Uniform.congr {α : Type} {step step' : Engine → α × Engine}
    (uniform : Uniform e.blank step) (h : ∀ e', e'.blank = e.blank → step' e' = step e') :
    Uniform e.blank step' := by
  intro e' same
  rw [h e' same, h e.blank rfl]
  exact uniform e' same

theorem uniform_dispatch {src dst : String}
    (fixed : ∀ policy ∈ e.policiesFor src dst, policy.preference ≠ .random) (frame : Frame) :
    Uniform e.blank fun e => e.dispatch frame src dst := by
  cases hpolicies : e.policiesFor src dst with
  | nil =>
      refine (uniform_of_same .noMatch).congr fun e' same => ?_
      simp only [dispatch, policiesFor_eq same, hpolicies]
  | cons first rest =>
      rw [hpolicies] at fixed
      let matched := (first :: rest).length
      refine ((uniform_routeAll fixed frame).comp (fun installed e =>
        (Disposition.routed matched installed,
          { e with counters := e.counters + { policyMatches := matched } }))
        fun installed => uniform_count _ _).congr fun e' same => ?_
      simp only [dispatch, policiesFor_eq same, hpolicies]
      rfl

theorem uniform_reply (receiver : ConnectPoint) (data : Bytes) :
    Uniform e.blank fun e => (ArpReply.replied,
      { e with
        outbox := e.outbox.send receiver data
        counters := e.counters + { arpReplies := 1 } }) := by
  intro e' same
  have counted := adds_count e' { arpReplies := 1 }
  rw [← same]
  exact ⟨rfl, counted.scene, rfl, rfl, counted.counters, rfl⟩

theorem uniform_answerArp (receiver : ConnectPoint) (frame : Frame) (message : Arp) :
    Uniform e.blank fun e => e.answerArp receiver frame message := by
  by_cases request : message.isRequest = true
  · by_cases gateway : e.regions.isGateway (.v4 message.targetIp) = true
    · cases hmac : e.regions.gatewayMac with
      | none =>
          refine (uniform_of_same .noGatewayMac).congr fun e' same => ?_
          simp only [answerArp, regions_eq same, if_pos request, if_pos gateway, hmac]
      | some mac =>
          refine (uniform_reply receiver (message.replyFrame mac frame.vlan)).congr
            fun e' same => ?_
          simp only [answerArp, regions_eq same, if_pos request, if_pos gateway, hmac]
          rfl
    · refine (uniform_of_same .notGateway).congr fun e' same => ?_
      simp only [answerArp, regions_eq same, if_pos request, if_neg gateway]
  · refine (uniform_of_same .notRequest).congr fun e' same => ?_
    simp only [answerArp, if_neg request]

theorem uniform_classify
    (fixed : ∀ src dst, e.regionsOf? frame = some (src, dst) →
      ∀ policy ∈ e.policiesFor src dst, policy.preference ≠ .random) (receiver : ConnectPoint) :
    Uniform e.blank fun e => e.classify receiver frame := by
  by_cases control : frame.isControl = true
  · refine (uniform_count .control { control := 1 }).congr fun e' _ => ?_
    rw [classify, if_pos control]
    rfl
  by_cases arp : frame.etherType = EtherType.arp
  · cases hmessage : frame.arp? with
    | none =>
        refine (uniform_of_same .unparsed).congr fun e' _ => ?_
        simp only [classify, if_neg control, if_pos arp, hmessage]
    | some message =>
        refine ((uniform_answerArp receiver frame message).comp
          (fun reply e => (Disposition.arpHandled reply, e))
          fun reply => uniform_of_same _).congr fun e' _ => ?_
        simp only [classify, if_neg control, if_pos arp, hmessage]
  cases hheader : frame.ipv4? with
  | none =>
      refine (uniform_count .notIpv4 { notIpv4 := 1 }).congr fun e' _ => ?_
      simp only [classify, if_neg control, if_neg arp, hheader]
      rfl
  | some header =>
      have unknown (h : ∀ src dst, ¬ (e.regionOf? header.src = some src ∧
          e.regionOf? header.dst = some dst)) :
          Uniform e.blank fun e => e.classify receiver frame := by
        refine (uniform_count .unknownRegion { unknownRegion := 1 }).congr fun e' same => ?_
        simp only [classify, if_neg control, if_neg arp, hheader, regionOf?_eq same]
        split
        · rename_i src dst hsrc hdst
          exact absurd ⟨hsrc, hdst⟩ (h src dst)
        · rfl
      cases hsrc : e.regionOf? header.src with
      | none => exact unknown (by simp [hsrc])
      | some src =>
          cases hdst : e.regionOf? header.dst with
          | none => exact unknown (by simp [hdst])
          | some dst =>
              have regions : e.regionsOf? frame = some (src, dst) :=
                regionsOf?_eq_some_iff.2 ⟨⟨control, arp⟩, header, hheader, hsrc, hdst⟩
              refine (uniform_dispatch (fixed src dst regions) frame).congr fun e' same => ?_
              simp only [classify, if_neg control, if_neg arp, hheader, regionOf?_eq same, hsrc,
                hdst]

/-- A packet ends alike in every engine of the same ground, and adds the same to each. -/
theorem uniform_process {data : Bytes} (fixed : ChanceFree e data) (receiver : ConnectPoint) :
    Uniform e.blank fun e => e.process receiver data := by
  have counted := uniform_count (e := e) () { packets := 1 }
  cases hframe : Frame.ofBytes? data with
  | none =>
      refine (counted.comp (fun _ e => (Disposition.unparsed, e))
        fun _ => uniform_of_same _).congr fun e' _ => ?_
      simp only [process, hframe]
      rfl
  | some frame =>
      refine (counted.comp (fun _ e => e.classify receiver frame)
        fun _ => uniform_classify (fun src dst => fixed frame src dst hframe) receiver).congr
          fun e' _ => ?_
      simp only [process, hframe]
      rfl

theorem writesOf_eq {e' : Engine} {data : Bytes} (fixed : ChanceFree e data)
    (same : e'.blank = e.blank) : e'.writesOf data = e.writesOf data := by
  have regions : ∀ frame, e'.regionsOf? frame = e.regionsOf? frame := fun frame => by
    simp only [regionsOf?, regionOf?_eq same]
  unfold writesOf
  cases hframe : Frame.ofBytes? data with
  | none => rfl
  | some frame =>
      simp only [regions]
      cases hregions : e.regionsOf? frame with
      | none => rfl
      | some ends =>
          have fixed' := fixed frame ends.1 ends.2 hframe hregions
          simp only [policiesFor_eq same]
          rw [Scene.writes_eq_flatMap fixed', Scene.writes_eq_flatMap fixed']
          exact List.flatMap_congr fun policy h => by rw [hops_eq same (fixed' policy h)]

end Engine

end PolicyRouting
