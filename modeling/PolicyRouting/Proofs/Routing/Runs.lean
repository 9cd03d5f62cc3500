import PolicyRouting.Calendar.Timestamp
import PolicyRouting.Frame.Writer
import PolicyRouting.Proofs.Policy.Ownership
import PolicyRouting.Proofs.Policy.Requests
import PolicyRouting.Proofs.Routing.Hops

/-!
# Runs of an engine

An engine is changed by its operator, by the network around it, and by the
packets it takes.  A packet writes the hops of every policy that joins its
regions, policy after policy; what a run has written is the list of these
writes, in order.  A step leaves the settings and the regions alone, and it
changes the register by operations of the register.
-/

namespace PolicyRouting

open Register (Install)

structure Write where
  policy : PolicyId
  hop : Hop
  deriving DecidableEq, Repr

def Write.install (write : Write) : Install := ⟨write.policy, write.hop.rule⟩

namespace Scene

variable {scene : Scene} {frame : Frame} {policies : List Policy}

/-- What the policies write, each in the scene that the one before it left. -/
def writes (scene : Scene) (frame : Frame) : List Policy → List Write
  | [] => []
  | policy :: rest =>
      (scene.hops policy.action policy frame).map (⟨policy.id, ·⟩) ++
        writes (scene.route policy.action policy frame).2 frame rest

theorem map_install_writes_cons (policy : Policy) (rest : List Policy) :
    (scene.writes frame (policy :: rest)).map Write.install =
      scene.installs policy.action policy frame ++
        ((scene.route policy.action policy frame).2.writes frame rest).map Write.install := by
  rw [writes, List.map_append, List.map_map]
  rfl

theorem exists_of_mem_writes {write : Write} (h : write ∈ scene.writes frame policies) :
    ∃ policy ∈ policies, ∃ scene', SameFabric scene scene' ∧ write.policy = policy.id ∧
      write.hop ∈ scene'.hops policy.action policy frame ∧
      ∀ hop ∈ scene'.hops policy.action policy frame,
        (⟨policy.id, hop⟩ : Write) ∈ scene.writes frame policies := by
  induction policies generalizing scene with
  | nil => simp [writes] at h
  | cons policy rest ih =>
      rcases List.mem_append.1 h with first | later
      · obtain ⟨hop, hhop, rfl⟩ := List.mem_map.1 first
        exact ⟨policy, List.mem_cons_self, scene, .refl scene, rfl, hhop, fun other hother =>
          List.mem_append_left _ (List.mem_map_of_mem hother)⟩
      · obtain ⟨found, hmem, scene', fabric, hpolicy, hhop, all⟩ := ih later
        exact ⟨found, List.mem_cons_of_mem _ hmem, scene', route_sameFabric.trans fabric, hpolicy,
          hhop, fun other hother => List.mem_append_right _ (all other hother)⟩

theorem exists_hops_of_mem (scene : Scene) (frame : Frame) {policy : Policy}
    (h : policy ∈ policies) :
    ∃ scene', SameFabric scene scene' ∧
      ∀ hop ∈ scene'.hops policy.action policy frame,
        (⟨policy.id, hop⟩ : Write) ∈ scene.writes frame policies := by
  induction policies generalizing scene with
  | nil => simp at h
  | cons first rest ih =>
      rcases List.mem_cons.1 h with rfl | h
      · exact ⟨scene, .refl scene, fun hop hhop =>
          List.mem_append_left _ (List.mem_map_of_mem hhop)⟩
      · obtain ⟨scene', fabric, all⟩ := ih (scene.route first.action first frame).2 h
        exact ⟨scene', route_sameFabric.trans fabric, fun hop hhop =>
          List.mem_append_right _ (all hop hhop)⟩

end Scene

namespace Engine

variable {e : Engine} {frame : Frame} {policies : List Policy}

theorem routeAll_spec
    (current : ∀ policy ∈ policies, e.scene.register.current.contains policy.id = true) :
    let after := e.routeAll frame policies
    after.1 = (e.scene.writes frame policies).length ∧ after.2.regions = e.regions ∧
      Scene.SameFabric e.scene after.2.scene ∧
      after.2.scene.register = e.scene.register.installAll
        ((e.scene.writes frame policies).map Write.install) := by
  induction policies generalizing e with
  | nil => exact ⟨rfl, rfl, .refl _, rfl⟩
  | cons policy rest ih =>
      have first := current policy List.mem_cons_self
      have register := Scene.route_register policy.action frame first
      -- installing leaves the policies alone, so the rest are still current
      have others : ∀ other ∈ rest,
          (e.scene.route policy.action policy frame).2.register.current.contains other.id =
            true := by
        intro other h
        rw [register, Register.installAll_current]
        exact current other (List.mem_cons_of_mem _ h)
      let next : Engine := { e with
        scene := (e.scene.route policy.action policy frame).2
        counters := Counters.noted e.counters (e.scene.route policy.action policy frame).1 }
      obtain ⟨counted, regions, fabric, installed⟩ := @ih next others
      refine ⟨?_, regions, Scene.route_sameFabric.trans fabric, ?_⟩
      · simp only [routeAll]
        rw [counted, Scene.rulesIn_route first, Scene.writes, List.length_append, List.length_map]
      · rw [Scene.map_install_writes_cons, Register.installAll_append, ← register]
        exact installed

/-! ## A packet -/

/-- The regions between which a frame is routed, where it is routed at all. -/
def regionsOf? (e : Engine) (frame : Frame) : Option (String × String) :=
  if frame.isControl = true ∨ frame.etherType = EtherType.arp then none
  else do
    let header ← frame.ipv4?
    let src ← e.regionOf? header.src
    let dst ← e.regionOf? header.dst
    return (src, dst)

theorem regionsOf?_eq_some_iff {src dst : String} :
    e.regionsOf? frame = some (src, dst) ↔
      (¬ frame.isControl = true ∧ frame.etherType ≠ EtherType.arp) ∧
        ∃ header, frame.ipv4? = some header ∧ e.regionOf? header.src = some src ∧
          e.regionOf? header.dst = some dst := by
  unfold regionsOf?
  by_cases h : frame.isControl = true ∨ frame.etherType = EtherType.arp
  · rw [if_pos h]
    constructor
    · intro none_some
      contradiction
    · rintro ⟨⟨notControl, notArp⟩, -⟩
      exact absurd h (not_or.2 ⟨notControl, notArp⟩)
  · rw [if_neg h]
    simp only [Option.bind_eq_bind, Option.bind_eq_some_iff, Option.pure_def, Option.some.injEq,
      Prod.mk.injEq]
    constructor
    · rintro ⟨header, hheader, s, hs, d, hd, rfl, rfl⟩
      exact ⟨not_or.1 h, header, hheader, hs, hd⟩
    · rintro ⟨-, header, hheader, hs, hd⟩
      exact ⟨header, hheader, src, hs, dst, hd, rfl, rfl⟩

def writesOf (e : Engine) (data : Bytes) : List Write :=
  match Frame.ofBytes? data with
  | none => []
  | some frame =>
      match e.regionsOf? frame with
      | none => []
      | some (src, dst) => e.scene.writes frame (e.policiesFor src dst)

theorem writesOf_of_frame {data : Bytes} (h : Frame.ofBytes? data = some frame) {src dst : String}
    (hregions : e.regionsOf? frame = some (src, dst)) :
    e.writesOf data = e.scene.writes frame (e.policiesFor src dst) := by
  simp only [writesOf, h, hregions]

/-- What an answer that says nothing about routes goes with. -/
structure Untouched (e : Engine) (answer : Disposition × Engine) : Prop where
  regions : answer.2.regions = e.regions
  scene : answer.2.scene = e.scene
  fallbacks : answer.2.counters.pathFallbacks = e.counters.pathFallbacks
  unrouted : ∀ matched installed, answer.1 ≠ .routed matched installed

theorem untouched_answerArp (e : Engine) (receiver : ConnectPoint) (frame : Frame)
    (message : Arp) : Untouched e (.arpHandled (e.answerArp receiver frame message).1,
      (e.answerArp receiver frame message).2) := by
  unfold answerArp
  split
  · split
    · split
      · exact ⟨rfl, rfl, rfl, by simp⟩
      · exact ⟨rfl, rfl, rfl, by simp⟩
    · exact ⟨rfl, rfl, rfl, by simp⟩
  · exact ⟨rfl, rfl, rfl, by simp⟩

/-- The answers to a packet that is neither routed nor an ARP message, and what they count. -/
def quietAnswers (e : Engine) : List (Disposition × Engine) :=
  [(.unparsed, e),
    (.control, { e with counters := { e.counters with control := e.counters.control + 1 } }),
    (.notIpv4, { e with counters := { e.counters with notIpv4 := e.counters.notIpv4 + 1 } }),
    (.unknownRegion,
      { e with counters := { e.counters with unknownRegion := e.counters.unknownRegion + 1 } })]

theorem classify_of_unrouted (receiver : ConnectPoint) (h : e.regionsOf? frame = none) :
    e.classify receiver frame ∈ e.quietAnswers ∨
    (frame.etherType = EtherType.arp ∧ ∃ message, e.classify receiver frame =
      (.arpHandled (e.answerArp receiver frame message).1,
        (e.answerArp receiver frame message).2)) := by
  unfold regionsOf? at h
  unfold classify
  by_cases control : frame.isControl = true
  · rw [if_pos control]
    exact .inl (by simp [quietAnswers])
  · rw [if_neg control]
    by_cases arp : frame.etherType = EtherType.arp
    · rw [if_pos arp]
      cases frame.arp? with
      | none => exact .inl (by simp [quietAnswers])
      | some message => exact .inr ⟨arp, message, rfl⟩
    · rw [if_neg arp]
      rw [if_neg (not_or.2 ⟨control, arp⟩)] at h
      cases hheader : frame.ipv4? with
      | none => exact .inl (by simp [quietAnswers])
      | some header =>
          cases hsrc : e.regionOf? header.src with
          | none => exact .inl (by simp [quietAnswers, hsrc])
          | some src =>
              cases hdst : e.regionOf? header.dst with
              | none => exact .inl (by simp [quietAnswers, hsrc, hdst])
              | some dst => simp [hheader, hsrc, hdst] at h

theorem untouched_classify (receiver : ConnectPoint) (h : e.regionsOf? frame = none) :
    Untouched e (e.classify receiver frame) := by
  rcases classify_of_unrouted receiver h with quiet | ⟨-, message, answered⟩
  · generalize e.classify receiver frame = answer at quiet
    simp only [quietAnswers, List.mem_cons, List.not_mem_nil, or_false] at quiet
    rcases quiet with rfl | rfl | rfl | rfl <;> exact ⟨rfl, rfl, rfl, by simp⟩
  · rw [answered]
    exact untouched_answerArp e receiver frame message

theorem classify_eq_dispatch (receiver : ConnectPoint) {src dst : String}
    (h : e.regionsOf? frame = some (src, dst)) :
    e.classify receiver frame = e.dispatch frame src dst := by
  obtain ⟨⟨control, arp⟩, header, hheader, hsrc, hdst⟩ := regionsOf?_eq_some_iff.1 h
  unfold classify
  rw [if_neg control, if_neg arp]
  simp only [hheader, hsrc, hdst]

def counting (e : Engine) : Engine :=
  { e with counters := { e.counters with packets := e.counters.packets + 1 } }

/-- A packet is no frame, or it is not routed, or it is routed between two regions. -/
theorem process_cases (e : Engine) (receiver : ConnectPoint) (data : Bytes) :
    (Frame.ofBytes? data = none ∧ e.process receiver data = (.unparsed, e.counting)) ∨
    (∃ frame, Frame.ofBytes? data = some frame ∧ e.regionsOf? frame = none ∧
      e.process receiver data = e.counting.classify receiver frame) ∨
    ∃ frame src dst, Frame.ofBytes? data = some frame ∧ e.regionsOf? frame = some (src, dst) ∧
      e.process receiver data = e.counting.dispatch frame src dst := by
  cases hframe : Frame.ofBytes? data with
  | none => exact .inl ⟨rfl, by simp only [process, hframe, counting]⟩
  | some frame =>
      have classified : e.process receiver data = e.counting.classify receiver frame := by
        simp only [process, hframe, counting]
      cases hregions : e.regionsOf? frame with
      | none => exact .inr (.inl ⟨frame, rfl, hregions, classified⟩)
      | some regions =>
          have dispatched := classify_eq_dispatch (e := e.counting) receiver hregions
          exact .inr (.inr ⟨frame, regions.1, regions.2, rfl, hregions,
            classified.trans dispatched⟩)

theorem dispatch_spec (filed : e.scene.register.Filed) (frame : Frame) (src dst : String) :
    let after := e.dispatch frame src dst
    let writes := e.scene.writes frame (e.policiesFor src dst)
    after.2.regions = e.regions ∧ Scene.SameFabric e.scene after.2.scene ∧
      after.2.scene.register = e.scene.register.installAll (writes.map Write.install) ∧
      ∀ matched installed, after.1 = .routed matched installed → installed = writes.length := by
  intro after writes
  have current : ∀ policy ∈ e.policiesFor src dst,
      e.scene.register.current.contains policy.id = true := by
    intro policy h
    exact filed.contains_of_mem_policies (List.mem_filter.1 h).1
  cases hpolicies : e.policiesFor src dst with
  | nil =>
      have nothing : writes = [] := by
        simp only [writes, hpolicies, Scene.writes]
      have same : after = (.noMatch, e) := by
        simp only [after, dispatch, hpolicies]
      rw [same, nothing]
      exact ⟨rfl, .refl _, rfl, by simp⟩
  | cons first rest =>
      have routed : after.1 = .routed (e.policiesFor src dst).length
          (e.routeAll frame (e.policiesFor src dst)).1 := by
        simp only [after, dispatch, hpolicies]
      have scene : after.2.scene = (e.routeAll frame (e.policiesFor src dst)).2.scene := by
        simp only [after, dispatch, hpolicies]
      have kept : after.2.regions = (e.routeAll frame (e.policiesFor src dst)).2.regions := by
        simp only [after, dispatch, hpolicies]
      obtain ⟨counted, regions, fabric, register⟩ := @routeAll_spec e frame _ current
      rw [scene, kept, routed]
      refine ⟨regions, fabric, register, fun matched installed h => ?_⟩
      simp only [Disposition.routed.injEq] at h
      rw [← h.2, counted]

/--
A packet leaves the regions and the fabric as they were, its writes are installed in their order,
and where it was routed they are counted.
-/
theorem process_spec (filed : e.scene.register.Filed) (receiver : ConnectPoint) (data : Bytes) :
    let after := e.process receiver data
    after.2.regions = e.regions ∧ Scene.SameFabric e.scene after.2.scene ∧
      after.2.scene.register =
        e.scene.register.installAll ((e.writesOf data).map Write.install) ∧
      ∀ matched installed, after.1 = .routed matched installed →
        installed = (e.writesOf data).length ∧
          ∃ frame src dst, Frame.ofBytes? data = some frame ∧
            e.regionsOf? frame = some (src, dst) := by
  intro after
  rcases e.process_cases receiver data with ⟨hframe, answer⟩ |
    ⟨frame, hframe, hregions, answer⟩ | ⟨frame, src, dst, hframe, hregions, answer⟩
  · have nothing : e.writesOf data = [] := by simp only [writesOf, hframe]
    have same : after = _ := answer
    rw [same, nothing]
    exact ⟨rfl, .refl _, rfl, by simp⟩
  · have nothing : e.writesOf data = [] := by simp only [writesOf, hframe, hregions]
    have same : after = _ := answer
    obtain ⟨regions, scene, -, unrouted⟩ := untouched_classify (e := e.counting) receiver hregions
    rw [same, nothing, scene]
    exact ⟨regions, .refl _, rfl, fun matched installed h =>
      absurd h (unrouted matched installed)⟩
  · have same : after = _ := answer
    rw [same, writesOf_of_frame hframe hregions]
    obtain ⟨regions, fabric, register, installed⟩ :=
      dispatch_spec (e := e.counting) filed frame src dst
    exact ⟨regions, fabric, register, fun matched count h =>
      ⟨installed matched count h, frame, src, dst, hframe, hregions⟩⟩

/-! ## Steps -/

inductive Operation where
  | create (build : PolicyId → Except Fault Policy)
  | transition (id : PolicyId) (state : PolicyState)
  | remove (id : PolicyId)
  | addLink (link : Link)
  | removeLink (link : Link)
  | addHost (host : Host)
  | removeHost (id : HostId)
  | process (receiver : ConnectPoint) (data : Bytes)

def withRegister (e : Engine) (register : Register) : Engine :=
  { e with scene := { e.scene with register } }

def withGraph (e : Engine) (graph : Graph) : Engine :=
  { e with scene := { e.scene with graph } }

def withDirectory (e : Engine) (directory : Directory) : Engine :=
  { e with scene := { e.scene with directory } }

def perform (e : Engine) : Operation → Engine
  | .create build => e.withRegister (e.scene.register.perform (.create build))
  | .transition id state => e.withRegister (e.scene.register.perform (.setState id state))
  | .remove id => e.withRegister (e.scene.register.perform (.remove id))
  | .addLink link => e.withGraph (e.scene.graph.add link)
  | .removeLink link => e.withGraph (e.scene.graph.remove link)
  | .addHost host => e.withDirectory (e.scene.directory.add host)
  | .removeHost id => e.withDirectory (e.scene.directory.remove id)
  | .process receiver data => (e.process receiver data).2

def performAll (e : Engine) (ops : List Operation) : Engine := ops.foldl perform e

def writesIn (e : Engine) : Operation → List Write
  | .process _ data => e.writesOf data
  | _ => []

def written (e : Engine) : List Operation → List Write
  | [] => []
  | op :: ops => e.writesIn op ++ written (e.perform op) ops

def registerOps (e : Engine) : Operation → List Register.Operation
  | .create build => [.create build]
  | .transition id state => [.setState id state]
  | .remove id => [.remove id]
  | .process _ data => (e.writesOf data).map fun write => write.install.operation
  | _ => []

def fresh (settings : Settings) (regions : Regions) (directory : Directory)
    (chance : Nat → Nat) : Engine :=
  let started := start settings regions .empty
  { started with scene := { started.scene with directory, chooser := { chance } } }

variable {op : Operation} {ops more : List Operation}

@[simp] theorem performAll_nil (e : Engine) : e.performAll [] = e := rfl

@[simp] theorem performAll_cons (e : Engine) (op : Operation) (ops : List Operation) :
    e.performAll (op :: ops) = (e.perform op).performAll ops := rfl

theorem performAll_append (e : Engine) (ops more : List Operation) :
    e.performAll (ops ++ more) = (e.performAll ops).performAll more := List.foldl_append

theorem written_append (e : Engine) (ops more : List Operation) :
    e.written (ops ++ more) = e.written ops ++ (e.performAll ops).written more := by
  induction ops generalizing e with
  | nil => rfl
  | cons op ops ih =>
      rw [List.cons_append, written, ih, written, List.append_assoc, performAll_cons]

theorem perform_register (filed : e.scene.register.Filed) (op : Operation) :
    (e.perform op).scene.register = e.scene.register.run (e.registerOps op) := by
  cases op with
  | create build => rfl
  | transition id state => rfl
  | remove id => rfl
  | addLink link => rfl
  | removeLink link => rfl
  | addHost host => rfl
  | removeHost id => rfl
  | process receiver data =>
      simp only [perform, registerOps]
      rw [(process_spec filed receiver data).2.2.1, Register.installAll, List.map_map]
      rfl

theorem filed_perform (filed : e.scene.register.Filed) (op : Operation) :
    (e.perform op).scene.register.Filed := by
  rw [perform_register filed op]
  exact Register.filed_run filed _

theorem filed_performAll (filed : e.scene.register.Filed) (ops : List Operation) :
    (e.performAll ops).scene.register.Filed := by
  induction ops generalizing e with
  | nil => exact filed
  | cons op ops ih => exact ih (filed_perform filed op)

theorem filed_fresh (settings : Settings) (regions : Regions) (directory : Directory)
    (chance : Nat → Nat) : (fresh settings regions directory chance).scene.register.Filed :=
  Register.filed_empty

/-- What holds of the register at the start and is needed at every step. -/
structure Sound (r : Register) : Prop where
  filed : r.Filed
  accounted : r.Accounted

theorem sound_fresh (settings : Settings) (regions : Regions) (directory : Directory)
    (chance : Nat → Nat) : Sound (fresh settings regions directory chance).scene.register :=
  ⟨filed_fresh settings regions directory chance, Register.accounted_empty⟩

theorem Sound.perform (sound : Sound e.scene.register) (op : Operation) :
    Sound (e.perform op).scene.register := by
  refine ⟨filed_perform sound.filed op, ?_⟩
  rw [perform_register sound.filed op]
  exact Register.accounted_run sound.accounted _

theorem registerOps_ne_recordRule {operation : Register.Operation}
    (h : operation ∈ e.registerOps op) (id : PolicyId) (rule : Rule) :
    operation ≠ .recordRule id rule := by
  rintro rfl
  cases op with
  | create build | transition id state | remove id | addLink link | removeLink link
  | addHost host | removeHost id => simp [registerOps] at h
  | process receiver data =>
      obtain ⟨write, -, hwrite⟩ := List.mem_map.1 h
      simp [Install.operation] at hwrite

end Engine

/-! ## Three devices in a line -/

def westHost : Host := .untagged ⟨2, 0, 0, 0, 0, 1⟩ [⟨10, 0, 0, 1⟩] ⟨"a", 1⟩

def eastHost : Host := .untagged ⟨2, 0, 0, 0, 0, 2⟩ [⟨10, 0, 1, 1⟩] ⟨"c", 2⟩

def lineDirectory : Directory := (Directory.empty.add westHost).add eastHost

def eastboundFrame : Frame where
  dst := ⟨2, 0, 0, 0, 0, 0xff⟩
  src := westHost.id.mac
  vlan := none
  etherType := EtherType.ipv4
  payload := .ipv4 ⟨⟨10, 0, 0, 1⟩, ⟨10, 0, 1, 1⟩, IpProtocol.tcp, 0, .tcp 40000 80⟩

def lineRegions : Regions where
  locals := [
    ⟨.v4 ⟨⟨10, 0, 0, 0⟩, ⟨24, by decide⟩⟩, .v4 ⟨10, 0, 0, 254⟩, "west"⟩,
    ⟨.v4 ⟨⟨10, 0, 1, 0⟩, ⟨24, by decide⟩⟩, .v4 ⟨10, 0, 1, 254⟩, "east"⟩]

def eastboundPacket : Bytes :=
  (Envelope.between westHost.id.mac ⟨2, 0, 0, 0, 0, 0xff⟩).tcp ⟨10, 0, 0, 1⟩ ⟨10, 0, 1, 1⟩ 40000 80

example : Frame.ofBytes? eastboundPacket = some eastboundFrame := by decide +kernel

def eastboundRequest (priority : String) : Request where
  profileName := "eastbound"
  priority := some priority
  region := "west"
  dstRegion := some "east"
  action := some "inter"

def lineLinks : List Engine.Operation :=
  [.addLink ⟨⟨"a", 2⟩, ⟨"b", 1⟩⟩, .addLink ⟨⟨"b", 2⟩, ⟨"c", 1⟩⟩]

end PolicyRouting
