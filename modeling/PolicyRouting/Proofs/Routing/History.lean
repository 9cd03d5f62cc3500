import PolicyRouting.Proofs.Policy.Reasons
import PolicyRouting.Proofs.Routing.Matching
import PolicyRouting.Proofs.Routing.Runs

/-!
# Where the rules come from

While the hosts stay where they are and policies are created by requests only,
every rule in the devices is what was last written under its id, and every
owned rule was written because its policy, as it is now, routes some frame that
the engine took.  The links may come and go meanwhile.
-/

namespace PolicyRouting

open Register (Install)

def lastWrite? (written : List Write) (id : UInt64) : Option Hop :=
  (written.reverse.find? fun write => write.hop.rule.id = id).map (·.hop)

section LastWrite

variable {written more : List Write} {id : UInt64} {hop : Hop}

theorem lastWrite?_append (written more : List Write) (id : UInt64) :
    lastWrite? (written ++ more) id = (lastWrite? more id).or (lastWrite? written id) := by
  rw [lastWrite?, List.reverse_append, List.find?_append, lastWrite?, lastWrite?]
  cases more.reverse.find? fun write => write.hop.rule.id = id <;> rfl

theorem mem_of_lastWrite? (h : lastWrite? written id = some hop) :
    hop.rule.id = id ∧ ∃ write ∈ written, write.hop = hop := by
  obtain ⟨write, hwrite, rfl⟩ := Option.map_eq_some_iff.1 h
  refine ⟨by simpa using List.find?_some hwrite, write, ?_, rfl⟩
  exact List.mem_reverse.1 (List.mem_of_find?_eq_some hwrite)

theorem exists_lastWrite? {write : Write} (h : write ∈ written) :
    ∃ hop, lastWrite? written write.hop.rule.id = some hop := by
  have found : (written.reverse.find? fun other => other.hop.rule.id =
      write.hop.rule.id).isSome = true :=
    List.find?_isSome.2 ⟨write, List.mem_reverse.2 h, decide_eq_true rfl⟩
  obtain ⟨last, hlast⟩ := Option.isSome_iff_exists.1 found
  exact ⟨last.hop, by rw [lastWrite?, hlast]; rfl⟩

theorem lastInstall?_map_install (written : List Write) (id : UInt64) :
    (Register.lastInstall? (written.map Write.install) id).map (·.rule) =
      (lastWrite? written id).map (·.rule) := by
  rw [Register.lastInstall?, ← List.map_reverse, List.find?_map, lastWrite?, Option.map_map,
    Option.map_map]
  rfl

end LastWrite

namespace Scene

variable {scene scene' : Scene} {class_ : RouteClass} {policy : Policy} {frame : Frame}
  {ends : Ends} {links : List Link} {hop : Hop}

/-- The content of a rule that a policy writes for a frame with these ends. -/
structure WrittenFor (settings : Settings) (policy : Policy) (ends : Ends) (rule : Rule) :
    Prop where
  selector : rule.selector = ends.selector
  priority : rule.priority = policy.priority
  table : rule.table = settings.table
  app : rule.app = settings.app
  id : rule.id = Digest.ofBytes rule.content

theorem writtenFor_of_mem_hopsAlong (h : hop ∈ scene.hopsAlong class_ policy ends links) :
    WrittenFor scene.settings policy ends hop.rule := by
  obtain ⟨device, treatment, hrule⟩ := RuleTemplate.exists_of_mem_hops h
  rw [hrule]
  exact ⟨rfl, rfl, rfl, rfl, rfl⟩

theorem exists_of_mem_hops (h : hop ∈ scene.hops class_ policy frame) :
    ∃ ends links, scene.ends? class_ policy frame = some ends ∧
      scene.graph.IsShortest ends.dst.location.device ends.src.location.device links ∧
      scene.hops class_ policy frame = scene.hopsAlong class_ policy ends links := by
  rcases hops_cases scene class_ policy frame with
    none_written | ⟨ends, links, met, hends, hchosen, along⟩
  · rw [none_written] at h
    exact absurd h List.not_mem_nil
  · exact ⟨ends, links, hends, isShortest_of_chosen hchosen, along⟩

end Scene

namespace Engine

variable {e e' : Engine} {frame : Frame} {policy : Policy} {ends : Ends}
  {frames : List Frame} {written : List Write}

/-- The policy joins the regions of the frame and routes it between these ends. -/
structure Governs (e : Engine) (policy : Policy) (frame : Frame) (ends : Ends) : Prop where
  joined : ∃ src dst, e.regionsOf? frame = some (src, dst) ∧
    policy.joins policy.action src dst = true
  ends : e.scene.ends? policy.action policy frame = some ends

structure SameGround (e e' : Engine) : Prop where
  settings : e'.scene.settings = e.scene.settings
  regions : e'.regions = e.regions
  hosts : e'.scene.directory.hosts = e.scene.directory.hosts

theorem SameGround.regionsOf? (ground : SameGround e e') (frame : Frame) :
    e'.regionsOf? frame = e.regionsOf? frame := by
  simp only [Engine.regionsOf?, regionOf?, ground.settings, ground.regions]

theorem SameGround.governs (ground : SameGround e e') (h : Governs e policy frame ends) :
    Governs e' policy frame ends := by
  refine ⟨?_, ?_⟩
  · rw [ground.regionsOf?]
    exact h.joined
  · rw [Scene.ends?_congr ground.settings ground.hosts]
    exact h.ends

theorem Governs.withState (h : Governs e policy frame ends) (state : PolicyState) :
    Governs e (policy.withState state) frame ends :=
  ⟨h.joined, h.ends⟩

/-- The rule was written because the policy routes a frame that was taken. -/
def Explains (e : Engine) (frames : List Frame) (written : List Write) (policy : Policy)
    (rule : Rule) : Prop :=
  (∃ write ∈ written, write.hop.rule = rule) ∧
    ∃ frame ∈ frames, ∃ ends, Governs e policy frame ends ∧
      rule.selector = ends.selector ∧ rule.priority = policy.priority

theorem governs_of_mem_writesOf {data : Bytes} {write : Write} (h : write ∈ e.writesOf data) :
    ∃ frame src dst policy ends, Frame.ofBytes? data = some frame ∧
      e.regionsOf? frame = some (src, dst) ∧ policy ∈ e.policiesFor src dst ∧
      write.policy = policy.id ∧ Governs e policy frame ends ∧
      Scene.WrittenFor e.scene.settings policy ends write.hop.rule := by
  cases hframe : Frame.ofBytes? data with
  | none => simp [writesOf, hframe] at h
  | some frame =>
      cases hregions : e.regionsOf? frame with
      | none => simp [writesOf, hframe, hregions] at h
      | some regions =>
          obtain ⟨src, dst⟩ := regions
          rw [writesOf_of_frame hframe hregions] at h
          obtain ⟨policy, hpolicy, scene', fabric, hid, hhop, -⟩ := Scene.exists_of_mem_writes h
          obtain ⟨ends, links, hends, -, along⟩ := Scene.exists_of_mem_hops hhop
          rw [along] at hhop
          have content := Scene.writtenFor_of_mem_hopsAlong hhop
          rw [fabric.settings] at content
          rw [Scene.ends?_congr fabric.settings fabric.hosts] at hends
          have joins : policy.joins policy.action src dst = true := (List.mem_filter.1 hpolicy).2
          exact ⟨frame, src, dst, policy, ends, rfl, hregions, hpolicy, hid,
            ⟨⟨src, dst, hregions, joins⟩, hends⟩, content⟩

theorem current_of_mem_writesOf (filed : e.scene.register.Filed) {data : Bytes} {write : Write}
    (h : write ∈ e.writesOf data) : e.scene.register.current.contains write.policy = true := by
  obtain ⟨-, src, dst, policy, -, -, -, hpolicy, hid, -, -⟩ := governs_of_mem_writesOf h
  rw [hid]
  exact filed.contains_of_mem_policies (List.mem_filter.1 hpolicy).1

/-! ## Runs -/

def Operation.frame? : Operation → Option Frame
  | .process _ data => Frame.ofBytes? data
  | _ => none

def framesIn (ops : List Operation) : List Frame := ops.filterMap Operation.frame?

/-- Hosts stay where they are, and policies are created by requests. -/
def Operation.Regular : Operation → Prop
  | .create build => ∃ request serial now, build = Request.build request serial now
  | .addHost _ | .removeHost _ => False
  | _ => True

/-- Where everything in the devices and everything owned comes from. -/
structure Explained (e : Engine) (frames : List Frame) (written : List Write) : Prop where
  sound : Sound e.scene.register
  classed : e.scene.register.AllCurrent Policy.ClassFits
  held : ∀ id rule, e.scene.register.switches.rules.get? id = some rule →
    ∃ hop, lastWrite? written id = some hop ∧ hop.rule = rule
  owned : e.scene.register.OwnedFor (e.Explains frames written)
  content : ∀ write ∈ written, ∃ policy ends,
    Scene.WrittenFor e.scene.settings policy ends write.hop.rule

theorem explained_fresh (settings : Settings) (regions : Regions) (directory : Directory)
    (chance : Nat → Nat) : Explained (fresh settings regions directory chance) [] [] where
  sound := sound_fresh settings regions directory chance
  classed := Register.allCurrent_empty _
  held _ _ h := by simp [fresh, start, Register.empty, Switches.empty] at h
  owned := Register.ownedFor_empty _
  content _ h := absurd h List.not_mem_nil

theorem SameGround.explains (ground : SameGround e e') {rule : Rule}
    (h : e.Explains frames written policy rule) : e'.Explains frames written policy rule := by
  obtain ⟨write, frame, hframe, ends, governs, content⟩ := h
  exact ⟨write, frame, hframe, ends, ground.governs governs, content⟩

theorem Explains.withState {rule : Rule} (h : e.Explains frames written policy rule)
    (state : PolicyState) : e.Explains frames written (policy.withState state) rule := by
  obtain ⟨write, frame, hframe, ends, governs, content⟩ := h
  exact ⟨write, frame, hframe, ends, governs.withState state, content⟩

theorem Explains.append {rule : Rule} (h : e.Explains frames written policy rule)
    (frames' : List Frame) (more : List Write) :
    e.Explains (frames ++ frames') (written ++ more) policy rule := by
  obtain ⟨⟨write, hwrite, hrule⟩, frame, hframe, why⟩ := h
  exact ⟨⟨write, List.mem_append_left _ hwrite, hrule⟩, frame, List.mem_append_left _ hframe, why⟩

theorem sameGround_process (sound : Sound e.scene.register) (receiver : ConnectPoint)
    (data : Bytes) : SameGround e (e.process receiver data).2 := by
  obtain ⟨regions, fabric, -, -⟩ := process_spec sound.filed receiver data
  exact ⟨fabric.settings, regions, fabric.hosts⟩

theorem sameGround_perform (sound : Sound e.scene.register) {op : Operation} (regular : op.Regular) :
    SameGround e (e.perform op) := by
  cases op with
  | create build | transition id state | remove id | addLink link | removeLink link =>
      exact ⟨rfl, rfl, rfl⟩
  | addHost host | removeHost id => exact False.elim regular
  | process receiver data => exact sameGround_process sound receiver data

theorem Explained.change (inv : Explained e frames written) {op : Register.Operation}
    (noInstall : ∀ id rule, op ≠ .installRule id rule)
    (classed : (e.scene.register.perform op).AllCurrent Policy.ClassFits)
    (owned : (e.scene.register.perform op).OwnedFor (e.Explains frames written)) :
    Explained (e.withRegister (e.scene.register.perform op)) frames written := by
  have ground : SameGround e (e.withRegister (e.scene.register.perform op)) := ⟨rfl, rfl, rfl⟩
  have step := Register.change_perform e.scene.register op
  refine ⟨⟨inv.sound.filed.perform op, inv.sound.accounted.change step⟩, classed,
    fun id rule h => ?_, owned.mono fun _ _ h => ground.explains h, inv.content⟩
  exact inv.held id rule (step.get?_of_no_install noInstall h)

theorem get?_process (sound : Sound e.scene.register) (receiver : ConnectPoint) (data : Bytes)
    (id : UInt64) :
    (e.process receiver data).2.scene.register.switches.rules.get? id =
      ((lastWrite? (e.writesOf data) id).map (·.rule)).or
        (e.scene.register.switches.rules.get? id) := by
  have active : ∀ install ∈ (e.writesOf data).map Write.install,
      e.scene.register.current.contains install.policy = true := by
    intro install hinstall
    obtain ⟨write, hwrite, rfl⟩ := List.mem_map.1 hinstall
    exact current_of_mem_writesOf sound.filed hwrite
  rw [(process_spec sound.filed receiver data).2.2.1, Register.get?_installAll active,
    lastInstall?_map_install]

theorem Explained.process (inv : Explained e frames written) (receiver : ConnectPoint)
    (data : Bytes) :
    Explained (e.process receiver data).2 (frames ++ (Frame.ofBytes? data).toList)
      (written ++ e.writesOf data) := by
  obtain ⟨-, -, register, -⟩ := process_spec inv.sound.filed receiver data
  have ground := sameGround_process inv.sound receiver data
  have written_for : ∀ install ∈ (e.writesOf data).map Write.install, ∀ policy,
      e.scene.register.current.get? install.policy = some policy →
        e.Explains (frames ++ (Frame.ofBytes? data).toList) (written ++ e.writesOf data) policy
          install.rule := by
    intro install hinstall policy hpolicy
    obtain ⟨write, hwrite, rfl⟩ := List.mem_map.1 hinstall
    obtain ⟨frame, src, dst, author, ends, hframe, -, hauthor, hid, governs, content⟩ :=
      governs_of_mem_writesOf hwrite
    -- ids are not shared, so the owner is the policy that wrote
    have author_current :=
      inv.sound.filed.mem_policies_iff.1 (List.mem_filter.1 hauthor).1
    have same : e.scene.register.current.get? author.id = some policy := hid ▸ hpolicy
    obtain rfl : author = policy := Option.some.inj (author_current.symm.trans same)
    refine ⟨⟨write, List.mem_append_right _ hwrite, rfl⟩, frame, ?_, ends, governs,
      content.selector, content.priority⟩
    simp [hframe]
  refine ⟨?_, ?_, fun id rule h => ?_, ?_, fun write h => ?_⟩
  · exact inv.sound.perform (.process receiver data)
  · rw [register]
    exact inv.classed.installAll _
  · rw [get?_process inv.sound receiver data] at h
    rw [lastWrite?_append]
    cases hlast : lastWrite? (e.writesOf data) id with
    | some hop =>
        rw [hlast] at h
        exact ⟨hop, rfl, Option.some.inj h⟩
    | none =>
        rw [hlast] at h
        exact inv.held id rule h
  · rw [register]
    have before := inv.owned.mono fun policy rule h =>
      h.append (Frame.ofBytes? data).toList (e.writesOf data)
    exact (before.installAll inv.sound.accounted written_for).mono
      fun policy rule h => ground.explains h
  · rw [ground.settings]
    rcases List.mem_append.1 h with old | new
    · exact inv.content write old
    · obtain ⟨frame, src, dst, policy, ends, -, -, -, -, -, content⟩ :=
        governs_of_mem_writesOf new
      exact ⟨policy, ends, content⟩

theorem Explained.perform (inv : Explained e frames written) {op : Operation}
    (regular : op.Regular)
    (room : ∀ build, op = .create build → ∃ free, free ∉ e.scene.register.idsInUse) :
    Explained (e.perform op) (frames ++ op.frame?.toList) (written ++ e.writesIn op) := by
  cases op with
  | create build =>
      obtain ⟨free, hfree⟩ := room build rfl
      simp only [Operation.frame?, writesIn, Option.toList_none, List.append_nil]
      refine inv.change (by simp) ?_ (inv.owned.create inv.sound.accounted hfree build)
      refine inv.classed.create fun id built hbuilt => ?_
      obtain ⟨request, serial, now, rfl⟩ := regular
      have fits : built.ClassFits := Request.classFits_of_build hbuilt
      exact fits
  | transition id state =>
      simp only [Operation.frame?, writesIn, Option.toList_none, List.append_nil]
      exact inv.change (by simp) (inv.classed.setState (fun _ _ h => h) id state)
        (inv.owned.setState (fun _ _ state h => h.withState state) id state)
  | remove id =>
      simp only [Operation.frame?, writesIn, Option.toList_none, List.append_nil]
      exact inv.change (by simp) (inv.classed.remove id) (inv.owned.remove id)
  | addLink link | removeLink link =>
      have ground := sameGround_perform inv.sound regular
      simp only [Operation.frame?, writesIn, Option.toList_none, List.append_nil]
      exact ⟨inv.sound, inv.classed, inv.held,
        inv.owned.mono fun _ _ h => ground.explains h, inv.content⟩
  | addHost host | removeHost id => exact False.elim regular
  | process receiver data => exact inv.process receiver data

theorem SameGround.trans {e'' : Engine} (first : SameGround e e') (second : SameGround e' e'') :
    SameGround e e'' :=
  ⟨second.settings.trans first.settings, second.regions.trans first.regions,
    second.hosts.trans first.hosts⟩

theorem sameGround_performAll (sound : Sound e.scene.register) {ops : List Operation}
    (regular : ∀ op ∈ ops, op.Regular) : SameGround e (e.performAll ops) := by
  induction ops generalizing e with
  | nil => exact ⟨rfl, rfl, rfl⟩
  | cons op ops ih =>
      have first := sameGround_perform sound (regular op List.mem_cons_self)
      exact first.trans (ih (sound.perform op) fun other h =>
        regular other (List.mem_cons_of_mem _ h))

/-- Whenever the run creates a policy, some id is free. -/
def HasRoom (e : Engine) (ops : List Operation) : Prop :=
  ∀ n build, ops[n]? = some (.create build) →
    ∃ free, free ∉ (e.performAll (ops.take n)).scene.register.idsInUse

theorem HasRoom.tail {op : Operation} {ops : List Operation} (room : HasRoom e (op :: ops)) :
    HasRoom (e.perform op) ops := by
  intro n build h
  simpa using room (n + 1) build (by simpa using h)

theorem length_idsInUse_perform_le (sound : Sound e.scene.register) (op : Operation) :
    (e.perform op).scene.register.idsInUse.length ≤ e.scene.register.idsInUse.length + 1 := by
  cases op with
  | create build => exact Register.length_idsInUse_perform_le _ (.create build)
  | transition id state => exact Register.length_idsInUse_perform_le _ (.setState id state)
  | remove id => exact Register.length_idsInUse_perform_le _ (.remove id)
  | addLink link | removeLink link | addHost host | removeHost id => exact Nat.le_succ _
  | process receiver data =>
      obtain ⟨current, pending, -⟩ := Register.installAll_frame e.scene.register
        ((e.writesOf data).map Write.install)
      rw [perform, (process_spec sound.filed receiver data).2.2.1, Register.idsInUse, current,
        pending, Register.idsInUse]
      exact Nat.le_succ _

theorem hasRoom_of_length {ops : List Operation} (sound : Sound e.scene.register)
    (h : e.scene.register.idsInUse.length + ops.length < UInt32.size) : HasRoom e ops := by
  induction ops generalizing e with
  | nil =>
      intro n build hop
      simp at hop
  | cons op ops ih =>
      have step := length_idsInUse_perform_le sound op
      rw [List.length_cons] at h
      have rest : HasRoom (e.perform op) ops := ih (sound.perform op) (by omega)
      intro n build hop
      cases n with
      | zero => exact PolicyId.exists_free (by simp; omega)
      | succ n => exact rest n build (by simpa using hop)

theorem Explained.performAll {ops : List Operation} (inv : Explained e frames written)
    (regular : ∀ op ∈ ops, op.Regular) (room : HasRoom e ops) :
    Explained (e.performAll ops) (frames ++ framesIn ops) (written ++ e.written ops) := by
  induction ops generalizing e frames written with
  | nil => simpa [framesIn, Engine.written] using inv
  | cons op ops ih =>
      have first := inv.perform (regular op List.mem_cons_self) fun build h => by
        simpa using room 0 build (by simp [h])
      have rest := ih first (fun other h => regular other (List.mem_cons_of_mem _ h)) room.tail
      have frames_cons : framesIn (op :: ops) = op.frame?.toList ++ framesIn ops := by
        cases h : op.frame? <;> simp [framesIn, h]
      rw [frames_cons, Engine.written, ← List.append_assoc, ← List.append_assoc]
      exact rest

end Engine

end PolicyRouting
