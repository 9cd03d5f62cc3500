import PolicyRouting.Proofs.Routing.Contribution

/-!
# A packet that comes again

A packet that is no ARP message does two things to an engine, apart from being
counted: addresses are watched and rules are installed.  Which ones depends on
the ground of the engine alone, as long as none of its policies chooses at
random, and a packet leaves the ground as it is.  So the packet does the same
two things when it comes again, and neither shows: the addresses are watched
already, and of the rules under one id the same one is written last.
-/

namespace PolicyRouting

namespace Directory

variable {d : Directory} {ip new : Ipv4} {ips : List Ipv4}

theorem mem_watch_iff : ip ∈ (d.watch new).watched ↔ ip ∈ d.watched ∨ ip = new := by
  unfold watch
  split
  · rename_i present
    refine (or_iff_left_of_imp ?_).symm
    rintro rfl
    exact List.contains_iff_mem.1 present
  · simp

theorem mem_watchAll_iff : ip ∈ (d.watchAll ips).watched ↔ ip ∈ d.watched ∨ ip ∈ ips := by
  induction ips generalizing d with
  | nil => simp
  | cons next ips ih => rw [watchAll_cons, ih, mem_watch_iff, List.mem_cons, or_assoc]

theorem watchAll_eq_self (h : ∀ ip ∈ ips, ip ∈ d.watched) : d.watchAll ips = d := by
  induction ips with
  | nil => rfl
  | cons next ips ih =>
      have present : d.watch next = d := if_pos (List.contains_iff_mem.2 (h next List.mem_cons_self))
      rw [watchAll_cons, present]
      exact ih fun ip hip => h ip (List.mem_cons_of_mem _ hip)

theorem watchAll_append (d : Directory) (ips more : List Ipv4) :
    d.watchAll (ips ++ more) = (d.watchAll ips).watchAll more := List.foldl_append

theorem watchAll_again (d : Directory) (ips : List Ipv4) :
    (d.watchAll ips).watchAll ips = d.watchAll ips :=
  watchAll_eq_self fun _ h => mem_watchAll_iff.2 (.inr h)

end Directory

namespace Scene

/-- The scene with neither the choices nor the writes to the devices counted. -/
def uncounted (scene : Scene) : Scene :=
  { scene with
    register := scene.register.uncounted
    chooser := { scene.chooser with counts := {} } }

def after (scene : Scene) (ips : List Ipv4) (installs : List Register.Install) : Scene :=
  { scene with
    directory := scene.directory.watchAll ips
    register := scene.register.installAll installs }

variable {scene scene' : Scene} {class_ : RouteClass} {policy : Policy} {frame : Frame}

theorem chance_choose (chooser : Chooser) (preference : PathPreference) (candidates : List Path)
    (required : List ConnectPoint) :
    (chooser.choose preference candidates required).2.chance = chooser.chance := by
  cases candidates with
  | nil => rfl
  | cons first others => cases preference <;> rfl

theorem chance_chosen (scene : Scene) (policy : Policy) (src dst : String) :
    (scene.chosen policy src dst).2.chance = scene.chooser.chance := by
  unfold chosen
  split
  · rfl
  · exact chance_choose _ _ _ _

theorem sought_of_ends {ends : Ends} (h : scene.ends? class_ policy frame = some ends) :
    scene.sought class_ frame = [] := by
  obtain ⟨header, hheader, hdst, -, -⟩ := ends?_eq_some_iff.1 h
  simp only [sought, hheader, hdst]

theorem sought_congr (hosts : scene'.directory.hosts = scene.directory.hosts)
    (class_ : RouteClass) (frame : Frame) :
    scene'.sought class_ frame = scene.sought class_ frame := by
  have destination : ∀ header, scene'.directory.destination? class_ frame header =
      scene.directory.destination? class_ frame header := by
    cases class_ <;> intro header <;>
      simp only [Directory.destination?, Directory.host?, Directory.owners, hosts]
  simp only [sought, destination]

theorem uncounted_route (scene : Scene) (class_ : RouteClass) (policy : Policy) (frame : Frame) :
    (scene.route class_ policy frame).2.uncounted =
      (scene.after (scene.sought class_ frame) (scene.installs class_ policy frame)).uncounted := by
  have register := scene.register_route class_ policy frame
  cases hends : scene.ends? class_ policy frame with
  | none =>
      obtain ⟨outcome, -, hroute⟩ := route_of_no_ends hends
      rw [hroute] at register ⊢
      simp only [uncounted, after, ← register]
  | some ends =>
      have chance := scene.chance_chosen policy ends.src.location.device ends.dst.location.device
      rw [sought_of_ends hends]
      cases hchosen :
          (scene.chosen policy ends.src.location.device ends.dst.location.device).1 with
      | none =>
          rw [route_eq_connect hends, connect_of_not_chosen hchosen] at register ⊢
          simp only [uncounted, after, ← register, chance, Directory.watchAll_nil]
      | some choice =>
          cases current : scene.register.current.contains policy.id with
          | true =>
              rw [route_of_current current hends hchosen]
              simp only [uncounted, after, chance, Directory.watchAll_nil]
          | false =>
              rw [route_of_not_current current hends hchosen] at register ⊢
              simp only [uncounted, after, ← register, chance, Directory.watchAll_nil]

end Scene

namespace Engine

def uncounted (e : Engine) : Engine := { e with scene := e.scene.uncounted, counters := {} }

def after (e : Engine) (ips : List Ipv4) (installs : List Register.Install) : Engine :=
  { e with scene := e.scene.after ips installs }

variable {e e' : Engine} {frame : Frame} {data : Bytes}

theorem after_append (e : Engine) (ips more : List Ipv4)
    (installs others : List Register.Install) :
    (e.after ips installs).after more others = e.after (ips ++ more) (installs ++ others) := by
  simp only [after, Scene.after, Directory.watchAll_append, Register.installAll_append]

theorem uncounted_after_congr (same : e'.uncounted = e.uncounted) (ips : List Ipv4)
    (installs : List Register.Install) :
    (e'.after ips installs).uncounted = (e.after ips installs).uncounted := by
  have forget : ∀ e : Engine,
      (e.uncounted.after ips installs).uncounted = (e.after ips installs).uncounted := by
    intro e
    simp only [uncounted, after, Scene.uncounted, Scene.after,
      Register.uncounted_installAll_uncounted]
  rw [← forget e', same, forget e]

theorem uncounted_after_again (e : Engine) (ips : List Ipv4) (installs : List Register.Install) :
    ((e.after ips installs).after ips installs).uncounted = (e.after ips installs).uncounted := by
  simp only [uncounted, after, Scene.uncounted, Scene.after, Directory.watchAll_again,
    Register.installAll_again]

/-! ## What a packet does -/

def soughtBy (e : Engine) (data : Bytes) : List Ipv4 :=
  match Frame.ofBytes? data with
  | none => []
  | some frame =>
      match e.regionsOf? frame with
      | none => []
      | some (src, dst) =>
          (e.policiesFor src dst).flatMap fun policy => e.scene.sought policy.action frame

def installsOf (e : Engine) (data : Bytes) : List Register.Install :=
  (e.writesOf data).map Write.install

theorem uncounted_routeAll (e : Engine) (frame : Frame) (policies : List Policy) :
    (e.routeAll frame policies).2.uncounted =
      (e.after (policies.flatMap fun policy => e.scene.sought policy.action frame)
        ((e.scene.writes frame policies).map Write.install)).uncounted := by
  induction policies generalizing e with
  | nil => rfl
  | cons policy rest ih =>
      let next : Engine := { e with
        scene := (e.scene.route policy.action policy frame).2
        counters := Counters.noted e.counters (e.scene.route policy.action policy frame).1 }
      have first : next.uncounted = (e.after (e.scene.sought policy.action frame)
          (e.scene.installs policy.action policy frame)).uncounted := by
        simp only [next, uncounted, after, Scene.uncounted_route]
      -- the route has left the hosts alone, so the others seek what they would have sought
      have later : ∀ other : Policy, next.scene.sought other.action frame =
          e.scene.sought other.action frame := fun other =>
        Scene.sought_congr Scene.route_sameFabric.hosts other.action frame
      have others := ih next
      simp only [later] at others
      rw [Scene.map_install_writes_cons, List.flatMap_cons, ← after_append,
        ← uncounted_after_congr first]
      exact others

theorem uncounted_dispatch (e : Engine) (frame : Frame) (src dst : String) :
    (e.dispatch frame src dst).2.uncounted =
      (e.after ((e.policiesFor src dst).flatMap fun policy => e.scene.sought policy.action frame)
        ((e.scene.writes frame (e.policiesFor src dst)).map Write.install)).uncounted := by
  rw [← uncounted_routeAll]
  cases hpolicies : e.policiesFor src dst with
  | nil =>
      simp only [dispatch, hpolicies]
      rfl
  | cons first rest =>
      simp only [dispatch, hpolicies]
      rfl

theorem uncounted_classify_of_unrouted (receiver : ConnectPoint)
    (notArp : frame.etherType ≠ EtherType.arp) (h : e.regionsOf? frame = none) :
    (e.classify receiver frame).2.uncounted = e.uncounted := by
  rcases classify_of_unrouted receiver h with quiet | ⟨arp, -⟩
  · generalize e.classify receiver frame = answer at quiet
    simp only [quietAnswers, List.mem_cons, List.not_mem_nil, or_false] at quiet
    rcases quiet with rfl | rfl | rfl | rfl <;> rfl
  · contradiction

/-- Apart from the counts, a packet watches what it seeks and installs its rules, and no more. -/
theorem uncounted_process (receiver : ConnectPoint)
    (notArp : ∀ frame, Frame.ofBytes? data = some frame → frame.etherType ≠ EtherType.arp) :
    (e.process receiver data).2.uncounted =
      (e.after (e.soughtBy data) (e.installsOf data)).uncounted := by
  rcases e.process_cases receiver data with ⟨hframe, answer⟩ |
    ⟨frame, hframe, hregions, answer⟩ | ⟨frame, src, dst, hframe, hregions, answer⟩
  · rw [answer]
    simp only [soughtBy, installsOf, writesOf, hframe]
    rfl
  · rw [answer]
    simp only [soughtBy, installsOf, writesOf, hframe, hregions]
    exact uncounted_classify_of_unrouted (e := e.counting) receiver (notArp frame hframe) hregions
  · rw [answer]
    simp only [soughtBy, installsOf, writesOf, hframe, hregions]
    exact uncounted_dispatch e.counting frame src dst

/-! ## The same again -/

theorem soughtBy_eq (same : e'.blank = e.blank) (data : Bytes) :
    e'.soughtBy data = e.soughtBy data := by
  have regions : ∀ frame, e'.regionsOf? frame = e.regionsOf? frame := fun frame => by
    simp only [regionsOf?, regionOf?_eq same]
  have ground : e'.scene.blank = e.scene.blank := congrArg Engine.scene same
  have hosts : e'.scene.directory.hosts = e.scene.directory.hosts := by
    change e'.scene.blank.directory.hosts = e.scene.directory.hosts
    rw [ground]
    rfl
  simp only [soughtBy, regions, policiesFor_eq same, Scene.sought_congr hosts]

/--
A packet that is no ARP message and meets no random choice ends alike when it comes again.  The
rules in the devices, the rules of every policy and the watched addresses stay as the first time
left them, and so does everything else but the counts, which grow as they grew the first time.
-/
theorem process_again (receiver : ConnectPoint)
    (notArp : ∀ frame, Frame.ofBytes? data = some frame → frame.etherType ≠ EtherType.arp)
    (fixed : e.ChanceFree data) :
    let once := e.process receiver data
    let twice := once.2.process receiver data
    twice.1 = once.1 ∧
    twice.2.scene.register.switches.rules = once.2.scene.register.switches.rules ∧
    (∀ id, twice.2.scene.register.rulesOf id = once.2.scene.register.rulesOf id) ∧
    twice.2.scene.directory.watched = once.2.scene.directory.watched ∧
    twice.2.uncounted = once.2.uncounted ∧
    ∃ more : PolicyRouting.Counters, once.2.counters = e.counters + more ∧
      twice.2.counters = once.2.counters + more := by
  intro once twice
  have uniform := uniform_process fixed receiver
  obtain ⟨ended, adds⟩ := uniform e rfl
  have ground : once.2.blank = e.blank := adds.blank_eq
  obtain ⟨ended', adds'⟩ := uniform once.2 ground
  have same : twice.2.uncounted = once.2.uncounted := by
    have left : once.2.uncounted = (e.after (e.soughtBy data) (e.installsOf data)).uncounted :=
      uncounted_process receiver notArp
    calc twice.2.uncounted
        = (once.2.after (once.2.soughtBy data) (once.2.installsOf data)).uncounted :=
          uncounted_process receiver notArp
      _ = (once.2.after (e.soughtBy data) (e.installsOf data)).uncounted := by
          rw [soughtBy_eq ground, installsOf, writesOf_eq fixed ground, installsOf]
      _ = ((e.after (e.soughtBy data) (e.installsOf data)).after (e.soughtBy data)
            (e.installsOf data)).uncounted := uncounted_after_congr left _ _
      _ = once.2.uncounted := by rw [uncounted_after_again, left]
  have register : twice.2.scene.register.uncounted = once.2.scene.register.uncounted :=
    congrArg (fun e => e.scene.register) same
  have owned : twice.2.scene.register.owned = once.2.scene.register.owned :=
    congrArg (fun r => r.owned) register
  refine ⟨ended'.trans ended.symm, congrArg (fun r => r.switches.rules) register,
    fun id => Register.rulesOf_congr owned, ?_, same, ?_⟩
  · exact congrArg (fun e => e.scene.directory.watched) same
  · exact ⟨_, adds.counters, adds'.counters⟩

def forkedEngine : Engine :=
  (fresh {} lineRegions lineDirectory scattered).performAll (lineLinks ++ [
    .addLink ⟨⟨"a", 3⟩, ⟨"d", 1⟩⟩,
    .addLink ⟨⟨"d", 2⟩, ⟨"c", 3⟩⟩,
    .create ({ eastboundRequest "50" with partialPath := some "d/1" }.build 1 (.ofEpochNanos 0)),
    .create ((eastboundRequest "50").build 2 (.ofEpochNanos 0))])

theorem forkedEngine_process_again :
    ((forkedEngine.process ⟨"a", 1⟩ eastboundPacket).1 = .routed 2 6 ∧
      (forkedEngine.process ⟨"a", 1⟩ eastboundPacket).2.scene.register.switches.rules.size = 4 ∧
      ((forkedEngine.process ⟨"a", 1⟩ eastboundPacket).2.scene.register.rulesOf 0).any (fun rule =>
        ((forkedEngine.process ⟨"a", 1⟩ eastboundPacket).2.scene.register.rulesOf 1).any
          fun other => rule.id = other.id ∧ rule.treatment ≠ other.treatment) = true) ∧
    ((forkedEngine.process ⟨"a", 1⟩ eastboundPacket).2.process ⟨"a", 1⟩ eastboundPacket).1 =
      (forkedEngine.process ⟨"a", 1⟩ eastboundPacket).1 ∧
    ((forkedEngine.process ⟨"a", 1⟩ eastboundPacket).2.process ⟨"a", 1⟩
        eastboundPacket).2.uncounted =
      (forkedEngine.process ⟨"a", 1⟩ eastboundPacket).2.uncounted := by
  have notArp : ∀ frame, Frame.ofBytes? eastboundPacket = some frame →
      frame.etherType ≠ EtherType.arp := by
    have read : Frame.ofBytes? eastboundPacket = some eastboundFrame := by decide +kernel
    intro frame h
    obtain rfl : eastboundFrame = frame := Option.some.inj (read.symm.trans h)
    decide
  have steady : Steady forkedEngine := by
    unfold Steady
    decide +kernel
  have again := process_again ⟨"a", 1⟩ notArp (steady.chanceFree eastboundPacket)
  refine ⟨⟨?_, ?_, ?_⟩, again.1, again.2.2.2.2.1⟩ <;> decide +kernel

end Engine

end PolicyRouting
