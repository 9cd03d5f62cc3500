import PolicyRouting.Proofs.Routing.Contribution

/-!
# The books of an engine

The engine counts what becomes of its packets, the chooser counts its choices,
and the devices count what is written to them.  Every packet has a disposition,
and every policy that it is routed under an outcome.  What is counted over a run
are sums over these two lists.  The three that count never meet; their books
agree because an outcome tells what the chooser and the devices have counted.
-/

namespace PolicyRouting

def total {α : Type} (share : α → Nat) : List α → Nat
  | [] => 0
  | a :: rest => share a + total share rest

section Total

variable {α : Type} {share : α → Nat}

@[simp] theorem total_nil : total share [] = 0 := rfl

@[simp] theorem total_cons (a : α) (rest : List α) :
    total share (a :: rest) = share a + total share rest := rfl

@[simp] theorem total_append (l more : List α) :
    total share (l ++ more) = total share l + total share more := by
  induction l with
  | nil => simp
  | cons a rest ih => simp [ih, Nat.add_assoc]

end Total

namespace Counters

def sum (l : List Counters) : Counters := l.foldr (· + ·) {}

@[simp] theorem sum_nil : sum [] = {} := rfl

@[simp] theorem sum_cons (a : Counters) (rest : List Counters) :
    sum (a :: rest) = a + sum rest := rfl

@[simp] theorem sum_append (l more : List Counters) : sum (l ++ more) = sum l + sum more := by
  induction l with
  | nil => simp
  | cons a rest ih => simp [ih, add_assoc]

theorem add_add_add_comm (a b c d : Counters) : a + b + (c + d) = a + c + (b + d) := by
  rw [← add_assoc, add_right_comm a b c, add_assoc]

end Counters

namespace Disposition

/-- What is counted with the disposition, apart from the packet and the outcomes. -/
def shown : Disposition → Counters
  | .control => { control := 1 }
  | .notIpv4 => { notIpv4 := 1 }
  | .arpHandled reply => { arpReplies := if reply = .replied then 1 else 0 }
  | .unknownRegion => { unknownRegion := 1 }
  | .routed matched _ => { policyMatches := matched }
  | _ => {}

def counted (disposition : Disposition) : Counters := { packets := 1 } + disposition.shown

def matched : Disposition → Nat
  | .routed matched _ => matched
  | _ => 0

def installed : Disposition → Nat
  | .routed _ installed => installed
  | _ => 0

theorem sum_counted (dispositions : List Disposition) :
    Counters.sum (dispositions.map counted) =
      { packets := dispositions.length
        control := dispositions.count .control
        notIpv4 := dispositions.count .notIpv4
        arpReplies := total (fun disposition => disposition.shown.arpReplies) dispositions
        unknownRegion := dispositions.count .unknownRegion
        policyMatches := total matched dispositions } := by
  induction dispositions with
  | nil => rfl
  | cons disposition rest ih =>
      rw [List.map_cons, Counters.sum_cons, ih, counted, Counters.add_def, Counters.add_def]
      cases disposition <;> simp [shown, matched, Nat.add_comm]

end Disposition

namespace RouteOutcome

def counted (outcome : RouteOutcome) : Counters := Engine.Counters.noted {} outcome

def isInstalled : RouteOutcome → Bool
  | .installed _ _ => true
  | _ => false

def isUnknownHost : RouteOutcome → Bool
  | .sourceUnknown | .destinationUnknown => true
  | _ => false

theorem length_eq (outcomes : List RouteOutcome) :
    outcomes.length =
      outcomes.countP isUnknownHost + outcomes.count .noSelector + outcomes.count .noPath +
        outcomes.countP isInstalled + outcomes.count .withdrawn := by
  induction outcomes with
  | nil => rfl
  | cons outcome rest ih =>
      simp only [List.length_cons, List.count_cons, List.countP_cons, ih]
      cases outcome <;> simp [isUnknownHost, isInstalled] <;> omega

theorem sum_counted (outcomes : List RouteOutcome) :
    Counters.sum (outcomes.map counted) =
      { rulesInstalled := total Engine.rulesIn outcomes
        hostsUnknown := outcomes.countP isUnknownHost
        selectorsRejected := outcomes.count .noSelector
        pathFallbacks := total (fun outcome => outcome.counted.pathFallbacks) outcomes } := by
  induction outcomes with
  | nil => rfl
  | cons outcome rest ih =>
      rw [List.map_cons, Counters.sum_cons, ih, Counters.add_def]
      simp only [total_cons, List.countP_cons, List.count_cons]
      cases outcome <;>
        simp [counted, Engine.Counters.noted, Engine.rulesIn, isUnknownHost, Nat.add_comm]

end RouteOutcome

/-- What a chooser that has counted this counts after a route with this outcome. -/
inductive ChoiceCounts.Step (counts : ChoiceCounts) : RouteOutcome → ChoiceCounts → Prop where
  | nothing {outcome : RouteOutcome} (found : outcome ≠ .noPath) (carried : outcome ≠ .withdrawn)
      (met : outcome.counted.pathFallbacks = 0) : Step counts outcome counts
  | missing : Step counts .noPath (counts.noted none)
  | choice (n : Nat) (kind : ChoiceKind) :
      Step counts (.installed n (decide (kind ≠ .fallback))) (counts.noted (some kind))

/-- The counts of choices are those of the outcomes, and every choice is of one kind. -/
structure ChoiceCounts.Fit (counts : ChoiceCounts) (outcomes : List RouteOutcome) : Prop where
  empty : counts.empty = outcomes.count .noPath
  fallbacks : counts.fallbacks = total (fun outcome => outcome.counted.pathFallbacks) outcomes
  selections : counts.selections = counts.random + counts.satisfied + counts.fallbacks
  carried : .withdrawn ∉ outcomes

theorem ChoiceCounts.Fit.concat {counts counts' : ChoiceCounts} {past : List RouteOutcome}
    {outcome : RouteOutcome} (fit : Fit counts past) (h : Step counts outcome counts') :
    Fit counts' (past ++ [outcome]) := by
  obtain ⟨empty, fallbacks, selections, carried⟩ := fit
  cases h with
  | nothing found notWithdrawn met =>
      refine ⟨?_, ?_, selections, ?_⟩
      · simp [empty, found]
      · simp [fallbacks, met]
      · simp [carried, notWithdrawn.symm]
  | missing =>
      refine ⟨?_, ?_, selections, ?_⟩
      · simp [noted, empty]
      · simp [noted, fallbacks, RouteOutcome.counted, Engine.Counters.noted]
      · simp [carried]
  | choice n kind =>
      refine ⟨?_, ?_, ?_, ?_⟩
      · cases kind <;> simp [noted, empty]
      · cases kind <;> simp [noted, fallbacks, RouteOutcome.counted, Engine.Counters.noted]
      · cases kind <;> simp only [noted] <;> omega
      · simp [carried]

/-! ## Routes -/

namespace Scene

/-- The outcomes of the policies, each in the scene that the one before it left. -/
def outcomes (scene : Scene) (frame : Frame) : List Policy → List RouteOutcome
  | [] => []
  | policy :: rest =>
      (scene.route policy.action policy frame).1 ::
        outcomes (scene.route policy.action policy frame).2 frame rest

@[simp] theorem length_outcomes (scene : Scene) (frame : Frame) (policies : List Policy) :
    (scene.outcomes frame policies).length = policies.length := by
  induction policies generalizing scene with
  | nil => rfl
  | cons policy rest ih => rw [outcomes, List.length_cons, ih, List.length_cons]

variable {scene scene' : Scene} {policy : Policy} {past : List RouteOutcome}

theorem step_of_chosen {links : List Link} {met : Bool} {src dst : String}
    (h : (scene.chosen policy src dst).1 = some (links, met)) (n : Nat) :
    scene.chooser.counts.Step (.installed n met) (scene.chosen policy src dst).2.counts := by
  unfold chosen at h ⊢
  by_cases same : src = dst
  · rw [if_pos same] at h ⊢
    obtain ⟨-, rfl⟩ := Prod.mk.inj (Option.some.inj h)
    exact .nothing nofun nofun rfl
  · rw [if_neg same] at h ⊢
    obtain ⟨choice, hchoice, heq⟩ := Option.map_eq_some_iff.1 h
    obtain ⟨-, rfl⟩ := Prod.mk.inj heq
    rw [Chooser.chooseFor] at hchoice ⊢
    cases candidates : scene.graph.shortestPaths src dst with
    | nil =>
        rw [candidates] at hchoice
        contradiction
    | cons first others =>
        rw [candidates] at hchoice
        cases preference : policy.preference with
        | random | equalCost | bestPossible | onDemand =>
            rw [preference] at hchoice
            rw [← Option.some.inj hchoice]
            exact .choice n _

theorem step_route (current : scene.register.current.contains policy.id = true)
    (class_ : RouteClass) (frame : Frame) :
    scene.chooser.counts.Step (scene.route class_ policy frame).1
      (scene.route class_ policy frame).2.chooser.counts := by
  cases hends : scene.ends? class_ policy frame with
  | none =>
      obtain ⟨outcome, unrouted, route⟩ := route_of_no_ends hends
      simp only [List.mem_cons, List.not_mem_nil, or_false] at unrouted
      rw [route]
      rcases unrouted with rfl | rfl | rfl <;> exact .nothing nofun nofun rfl
  | some ends =>
      cases hchosen :
          (scene.chosen policy ends.src.location.device ends.dst.location.device).1 with
      | none =>
          obtain ⟨apart, unreachable⟩ := chosen_eq_none_iff.1 hchosen
          rw [route_eq_connect hends, connect_of_not_chosen hchosen, chosen, if_neg apart,
            unreachable]
          exact .missing
      | some choice =>
          rw [route_of_current current hends hchosen]
          exact step_of_chosen hchosen _

theorem applied_route (current : scene.register.current.contains policy.id = true)
    (class_ : RouteClass) (frame : Frame) :
    (scene.route class_ policy frame).2.register.switches.applied =
      scene.register.switches.applied + Engine.rulesIn (scene.route class_ policy frame).1 := by
  rw [register_route, Register.applied_installAll (current_of_mem_installs current),
    rulesIn_route current, installs, List.length_map]

/-- The chooser and the devices have counted what the outcomes say. -/
structure Booked (scene : Scene) (outcomes : List RouteOutcome) : Prop where
  applied : scene.register.switches.applied = total Engine.rulesIn outcomes
  choices : scene.chooser.counts.Fit outcomes

theorem Booked.congr (booked : Booked scene past)
    (applied : scene'.register.switches.applied = scene.register.switches.applied)
    (counts : scene'.chooser.counts = scene.chooser.counts) : Booked scene' past :=
  ⟨applied.trans booked.applied, counts ▸ booked.choices⟩

theorem Booked.route (booked : Booked scene past)
    (current : scene.register.current.contains policy.id = true) (class_ : RouteClass)
    (frame : Frame) :
    Booked (scene.route class_ policy frame).2 (past ++ [(scene.route class_ policy frame).1]) where
  applied := by
    rw [applied_route current, booked.applied, total_append, total_cons, total_nil, Nat.add_zero]
  choices := booked.choices.concat (step_route current class_ frame)

end Scene

theorem Register.Change.applied_eq {r r' : Register} {op : Register.Operation}
    (h : Change r op r') (noInstall : ∀ id rule, op ≠ .installRule id rule) :
    r'.switches.applied = r.switches.applied := by
  cases h with
  | idle _ _ _ _ switches | enter _ _ _ _ _ _ switches | record _ _ _ _ _ _ switches =>
      rw [switches]
  | leave _ _ _ _ _ switches =>
      rw [switches]
      rfl
  | install id rule _ _ _ _ _ => exact absurd rfl (noInstall id rule)

/-! ## Packets -/

namespace Engine

variable {e : Engine} {frame : Frame} {past : List RouteOutcome}

theorem fst_routeAll (e : Engine) (frame : Frame) (policies : List Policy) :
    (e.routeAll frame policies).1 = total rulesIn (e.scene.outcomes frame policies) := by
  induction policies generalizing e with
  | nil => rfl
  | cons policy rest ih =>
      simp only [routeAll]
      rw [ih]
      rfl

theorem counters_routeAll (e : Engine) (frame : Frame) (policies : List Policy) :
    (e.routeAll frame policies).2.counters = e.counters +
      Counters.sum ((e.scene.outcomes frame policies).map RouteOutcome.counted) := by
  induction policies generalizing e with
  | nil => rfl
  | cons policy rest ih =>
      simp only [routeAll]
      rw [ih, Counters.noted_eq_add, PolicyRouting.Counters.add_assoc]
      rfl

theorem outbox_routeAll (e : Engine) (frame : Frame) (policies : List Policy) :
    (e.routeAll frame policies).2.outbox = e.outbox := by
  induction policies generalizing e with
  | nil => rfl
  | cons policy rest ih =>
      simp only [routeAll]
      rw [ih]

theorem booked_routeAll (booked : e.scene.Booked past) {policies : List Policy}
    (current : ∀ policy ∈ policies, e.scene.register.current.contains policy.id = true)
    (frame : Frame) :
    (e.routeAll frame policies).2.scene.Booked (past ++ e.scene.outcomes frame policies) := by
  induction policies generalizing e past with
  | nil =>
      rw [Scene.outcomes, List.append_nil]
      exact booked
  | cons policy rest ih =>
      have first := current policy List.mem_cons_self
      let next : Engine := { e with
        scene := (e.scene.route policy.action policy frame).2
        counters := Counters.noted e.counters (e.scene.route policy.action policy frame).1 }
      -- installing leaves the policies alone, so the rest are still current
      have others : ∀ other ∈ rest, next.scene.register.current.contains other.id = true := by
        intro other h
        simp only [next, Scene.route_register policy.action frame first,
          Register.installAll_current]
        exact current other (List.mem_cons_of_mem _ h)
      have later := ih (e := next) (booked.route first policy.action frame) others
      rw [Scene.outcomes, List.append_cons]
      exact later

/-- What the engine has counted and sent when it gives this answer after these outcomes. -/
structure Accounts (e : Engine) (answer : Disposition × Engine) (outcomes : List RouteOutcome) :
    Prop where
  counters : answer.2.counters = e.counters +
    (answer.1.shown + PolicyRouting.Counters.sum (outcomes.map RouteOutcome.counted))
  sent : answer.2.outbox.sent.length = e.outbox.sent.length + answer.1.shown.arpReplies
  matched : answer.1.matched = outcomes.length
  installed : answer.1.installed = total rulesIn outcomes

theorem accounts_dispatch (e : Engine) (frame : Frame) (src dst : String) :
    Accounts e (e.dispatch frame src dst) (e.scene.outcomes frame (e.policiesFor src dst)) := by
  cases hpolicies : e.policiesFor src dst with
  | nil =>
      simp only [dispatch, hpolicies]
      exact ⟨rfl, rfl, rfl, rfl⟩
  | cons first rest =>
      simp only [dispatch, hpolicies]
      constructor
      · have routed := counters_routeAll e frame (first :: rest)
        have matched : ∀ c : PolicyRouting.Counters, ∀ n : Nat,
            { c with policyMatches := c.policyMatches + n } = c + { policyMatches := n } :=
          fun _ _ => rfl
        rw [matched, routed, PolicyRouting.Counters.add_right_comm,
          PolicyRouting.Counters.add_assoc]
        rfl
      · rw [outbox_routeAll]
        rfl
      · exact (Scene.length_outcomes _ _ _).symm
      · exact fst_routeAll e frame (first :: rest)

theorem accounts_answerArp (e : Engine) (receiver : ConnectPoint) (frame : Frame)
    (message : Arp) : Accounts e (.arpHandled (e.answerArp receiver frame message).1,
      (e.answerArp receiver frame message).2) [] := by
  unfold answerArp
  split
  · split
    · split
      · exact ⟨rfl, rfl, rfl, rfl⟩
      · refine ⟨rfl, ?_, rfl, rfl⟩
        simp [Outbox.send, Disposition.shown]
    · exact ⟨rfl, rfl, rfl, rfl⟩
  · exact ⟨rfl, rfl, rfl, rfl⟩

theorem accounts_of_unrouted (receiver : ConnectPoint) (h : e.regionsOf? frame = none) :
    Accounts e (e.classify receiver frame) [] := by
  rcases classify_of_unrouted receiver h with quiet | ⟨-, message, answered⟩
  · generalize e.classify receiver frame = answer at quiet
    simp only [quietAnswers, List.mem_cons, List.not_mem_nil, or_false] at quiet
    rcases quiet with rfl | rfl | rfl | rfl <;> exact ⟨rfl, rfl, rfl, rfl⟩
  · rw [answered]
    exact accounts_answerArp e receiver frame message

def outcomesOf (e : Engine) (data : Bytes) : List RouteOutcome :=
  match Frame.ofBytes? data with
  | none => []
  | some frame =>
      match e.regionsOf? frame with
      | none => []
      | some (src, dst) => e.scene.outcomes frame (e.policiesFor src dst)

theorem accounts_process (e : Engine) (receiver : ConnectPoint) (data : Bytes) :
    Accounts e.counting (e.process receiver data) (e.outcomesOf data) := by
  rcases e.process_cases receiver data with ⟨hframe, answer⟩ |
    ⟨frame, hframe, hregions, answer⟩ | ⟨frame, src, dst, hframe, hregions, answer⟩
  · rw [answer]
    simp only [outcomesOf, hframe]
    exact ⟨rfl, rfl, rfl, rfl⟩
  · rw [answer]
    simp only [outcomesOf, hframe, hregions]
    exact accounts_of_unrouted receiver hregions
  · rw [answer]
    simp only [outcomesOf, hframe, hregions]
    exact accounts_dispatch e.counting frame src dst

theorem booked_dispatch (booked : e.scene.Booked past) (filed : e.scene.register.Filed)
    (frame : Frame) (src dst : String) :
    (e.dispatch frame src dst).2.scene.Booked
      (past ++ e.scene.outcomes frame (e.policiesFor src dst)) := by
  have current : ∀ policy ∈ e.policiesFor src dst,
      e.scene.register.current.contains policy.id = true :=
    fun policy h => filed.contains_of_mem_policies (List.mem_filter.1 h).1
  have routed := booked_routeAll booked current frame
  cases hpolicies : e.policiesFor src dst with
  | nil =>
      simp only [dispatch, hpolicies, Scene.outcomes, List.append_nil]
      exact booked
  | cons first rest =>
      rw [hpolicies] at routed
      simp only [dispatch, hpolicies]
      exact routed

theorem booked_process (booked : e.scene.Booked past) (filed : e.scene.register.Filed)
    (receiver : ConnectPoint) (data : Bytes) :
    (e.process receiver data).2.scene.Booked (past ++ e.outcomesOf data) := by
  rcases e.process_cases receiver data with ⟨hframe, answer⟩ |
    ⟨frame, hframe, hregions, answer⟩ | ⟨frame, src, dst, hframe, hregions, answer⟩
  · rw [answer]
    simp only [outcomesOf, hframe, List.append_nil]
    exact booked
  · have untouched := untouched_classify (e := e.counting) receiver hregions
    rw [answer, untouched.scene]
    simp only [outcomesOf, hframe, hregions, List.append_nil]
    exact booked
  · rw [answer]
    simp only [outcomesOf, hframe, hregions]
    exact booked_dispatch (e := e.counting) booked filed frame src dst

/-! ## Runs -/

def Operation.isPacket : Operation → Bool
  | .process _ _ => true
  | _ => false

def dispositionsIn (e : Engine) : Operation → List Disposition
  | .process receiver data => [(e.process receiver data).1]
  | _ => []

def outcomesIn (e : Engine) : Operation → List RouteOutcome
  | .process _ data => e.outcomesOf data
  | _ => []

def dispositions (e : Engine) : List Operation → List Disposition
  | [] => []
  | op :: ops => e.dispositionsIn op ++ dispositions (e.perform op) ops

def outcomes (e : Engine) : List Operation → List RouteOutcome
  | [] => []
  | op :: ops => e.outcomesIn op ++ outcomes (e.perform op) ops

theorem length_dispositions (e : Engine) (ops : List Operation) :
    (e.dispositions ops).length = ops.countP Operation.isPacket := by
  induction ops generalizing e with
  | nil => rfl
  | cons op ops ih =>
      rw [dispositions, List.length_append, ih, List.countP_cons, Nat.add_comm]
      cases op <;> rfl

/-- What is counted and sent in a run with these dispositions and outcomes. -/
structure Ledger (e after : Engine) (seen : List Disposition) (outcomes : List RouteOutcome) :
    Prop where
  counters : after.counters = e.counters +
    (PolicyRouting.Counters.sum (seen.map Disposition.counted) +
      PolicyRouting.Counters.sum (outcomes.map RouteOutcome.counted))
  sent : after.outbox.sent.length =
    e.outbox.sent.length + total (fun disposition => disposition.shown.arpReplies) seen
  matched : total Disposition.matched seen = outcomes.length
  installed : total Disposition.installed seen = total rulesIn outcomes

theorem Ledger.trans {after after' : Engine} {seen seen' : List Disposition}
    {outcomes outcomes' : List RouteOutcome} (first : Ledger e after seen outcomes)
    (second : Ledger after after' seen' outcomes') :
    Ledger e after' (seen ++ seen') (outcomes ++ outcomes') where
  counters := by
    rw [second.counters, first.counters, List.map_append, List.map_append,
      PolicyRouting.Counters.sum_append, PolicyRouting.Counters.sum_append,
      PolicyRouting.Counters.add_assoc, PolicyRouting.Counters.add_add_add_comm]
  sent := by rw [second.sent, first.sent, total_append, Nat.add_assoc]
  matched := by rw [total_append, first.matched, second.matched, List.length_append]
  installed := by rw [total_append, first.installed, second.installed, total_append]

theorem ledger_perform (e : Engine) (op : Operation) :
    Ledger e (e.perform op) (e.dispositionsIn op) (e.outcomesIn op) := by
  cases op with
  | process receiver data =>
      obtain ⟨counters, sent, matched, installed⟩ := accounts_process e receiver data
      refine ⟨?_, sent, matched, installed⟩
      let disposition := (e.process receiver data).1
      let routes := PolicyRouting.Counters.sum ((e.outcomesOf data).map RouteOutcome.counted)
      calc (e.process receiver data).2.counters
          = e.counters + { packets := 1 } + (disposition.shown + routes) := counters
        _ = e.counters + (disposition.counted + routes) := by
            rw [Disposition.counted, PolicyRouting.Counters.add_assoc,
              PolicyRouting.Counters.add_assoc]
  | create build | transition id state | remove id | addLink link | removeLink link
  | addHost host | removeHost id => exact ⟨rfl, rfl, rfl, rfl⟩

theorem ledger_performAll (e : Engine) (ops : List Operation) :
    Ledger e (e.performAll ops) (e.dispositions ops) (e.outcomes ops) := by
  induction ops generalizing e with
  | nil => exact ⟨rfl, rfl, rfl, rfl⟩
  | cons op ops ih => exact (ledger_perform e op).trans (ih (e.perform op))

theorem booked_perform (booked : e.scene.Booked past) (filed : e.scene.register.Filed)
    (op : Operation) : (e.perform op).scene.Booked (past ++ e.outcomesIn op) := by
  -- only a packet routes anything
  have quiet : ∀ scene : Scene,
      scene.register.switches.applied = e.scene.register.switches.applied →
      scene.chooser.counts = e.scene.chooser.counts → scene.Booked (past ++ []) := by
    intro scene applied counts
    rw [List.append_nil]
    exact booked.congr applied counts
  cases op with
  | process receiver data => exact booked_process booked filed receiver data
  | create build | transition id state | remove id =>
      exact quiet _ ((Register.change_perform _ _).applied_eq nofun) rfl
  | addLink link | removeLink link | addHost host | removeHost id => exact quiet _ rfl rfl

theorem booked_performAll (booked : e.scene.Booked past) (filed : e.scene.register.Filed)
    (ops : List Operation) : (e.performAll ops).scene.Booked (past ++ e.outcomes ops) := by
  induction ops generalizing e past with
  | nil =>
      rw [outcomes, List.append_nil]
      exact booked
  | cons op ops ih =>
      have later := ih (booked_perform booked filed op) (filed_perform filed op)
      rw [outcomes, ← List.append_assoc]
      exact later

theorem Ledger.counters_eq {after : Engine} {seen : List Disposition}
    {outcomes : List RouteOutcome} (ledger : Ledger e after seen outcomes)
    (zero : e.counters = {}) :
    after.counters =
      { packets := seen.length
        control := seen.count .control
        notIpv4 := seen.count .notIpv4
        arpReplies := total (fun disposition => disposition.shown.arpReplies) seen
        unknownRegion := seen.count .unknownRegion
        policyMatches := total Disposition.matched seen
        rulesInstalled := total rulesIn outcomes
        hostsUnknown := outcomes.countP RouteOutcome.isUnknownHost
        selectorsRejected := outcomes.count .noSelector
        pathFallbacks := total (fun outcome => outcome.counted.pathFallbacks) outcomes } := by
  rw [ledger.counters, zero, Disposition.sum_counted, RouteOutcome.sum_counted]
  simp only [PolicyRouting.Counters.add_def, Nat.add_zero, Nat.zero_add]

/--
After any run of a fresh engine the packets, the dispositions, the frames sent, the policies matched
and the rules written are counted as often as they occurred.  Every policy matched had one outcome,
every choice was of one kind, and the engine has counted every fallback of the chooser.
-/
theorem books_agree (settings : Settings) (regions : Regions) (directory : Directory)
    (chance : Nat → Nat) (ops : List Operation) :
    let start := fresh settings regions directory chance
    let e := start.performAll ops
    let seen := start.dispositions ops
    let outcomes := start.outcomes ops
    let choices := e.scene.chooser.counts
    (e.counters.packets = ops.countP Operation.isPacket ∧
      seen.length = ops.countP Operation.isPacket) ∧
    e.counters.control = seen.count .control ∧
    e.counters.notIpv4 = seen.count .notIpv4 ∧
    e.counters.unknownRegion = seen.count .unknownRegion ∧
    e.counters.arpReplies = e.outbox.sent.length ∧
    e.counters.policyMatches = total Disposition.matched seen ∧
    e.counters.rulesInstalled = total Disposition.installed seen ∧
    e.counters.rulesInstalled = e.scene.register.switches.applied ∧
    e.counters.policyMatches = e.counters.hostsUnknown + e.counters.selectorsRejected +
      choices.empty + outcomes.countP RouteOutcome.isInstalled ∧
    choices.selections = choices.random + choices.satisfied + choices.fallbacks ∧
    e.counters.pathFallbacks = choices.fallbacks := by
  intro start e seen outcomes choices
  have ledger : Ledger start e seen outcomes := ledger_performAll start ops
  have unused : start.scene.Booked [] := ⟨rfl, rfl, rfl, rfl, List.not_mem_nil⟩
  have booked : e.scene.Booked outcomes := booked_performAll unused (filed_fresh ..) ops
  have executed := RouteOutcome.length_eq outcomes
  rw [List.count_eq_zero.2 booked.choices.carried, ← ledger.matched, ← booked.choices.empty]
    at executed
  have sent : e.outbox.sent.length =
      0 + total (fun disposition => disposition.shown.arpReplies) seen := ledger.sent
  have length : seen.length = ops.countP Operation.isPacket := length_dispositions start ops
  rw [ledger.counters_eq rfl]
  refine ⟨⟨length, length⟩, rfl, rfl, rfl, ?_, rfl, ledger.installed.symm, booked.applied.symm,
    executed, booked.choices.selections, booked.choices.fallbacks.symm⟩
  rw [sent, Nat.zero_add]

end Engine

end PolicyRouting
