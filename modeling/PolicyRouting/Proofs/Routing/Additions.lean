import PolicyRouting.Proofs.Routing.Repetition

/-!
# What a packet adds

A packet adds rules to the devices, rules to the lists of its policies and at
most one address to the watched ones, and it takes nothing away.  The policies
that do not match it keep the lists they have.  All of this is read off the two
things that a packet does: it installs the rules of its writes, and it watches
what it seeks.
-/

namespace PolicyRouting

open Register (Install)

namespace Register

variable {r : Register} {installs : List Install} {id : PolicyId} {ruleId : UInt64}

theorem active_filter (r : Register) (installs : List Install) :
    ∀ install ∈ installs.filter fun install => r.current.contains install.policy,
      r.current.contains install.policy = true :=
  fun _ h => (List.mem_filter.1 h).2

theorem contains_installAll (h : r.switches.contains ruleId = true) :
    (r.installAll installs).switches.contains ruleId = true := by
  rw [← installAll_filter, contains_installAll_iff (active_filter r installs)]
  exact .inl h

theorem exists_of_changed
    (h : (r.installAll installs).switches.rules.get? ruleId ≠ r.switches.rules.get? ruleId) :
    ∃ install ∈ installs, install.rule.id = ruleId ∧
      (r.installAll installs).switches.rules.get? ruleId = some install.rule ∧
      ruleId ∈ ((r.installAll installs).rulesOf install.policy).map Rule.id := by
  -- what is installed for policies that are not current leaves no trace
  have active := active_filter r installs
  rw [← installAll_filter] at h ⊢
  rw [get?_installAll active] at h ⊢
  cases hlast : lastInstall? (installs.filter fun install => r.current.contains install.policy)
      ruleId with
  | none =>
      rw [hlast] at h
      exact absurd rfl h
  | some last =>
      obtain ⟨hmem, rfl⟩ := mem_of_lastInstall? hlast
      refine ⟨last, (List.mem_filter.1 hmem).1, rfl, rfl, ?_⟩
      exact (mem_rulesOf_installAll_iff active).2 (.inr ⟨last, hmem, rfl, rfl⟩)

theorem rulesOf_prefix_installAll (r : Register) (installs : List Install) (id : PolicyId) :
    r.rulesOf id <+: (r.installAll installs).rulesOf id := by
  obtain ⟨more, hmore, -⟩ := exists_rulesOf_installAll r installs id
  exact ⟨more, hmore.symm⟩

theorem rulesOf_installAll_of_others (others : ∀ install ∈ installs, install.policy ≠ id) :
    (r.installAll installs).rulesOf id = r.rulesOf id := by
  obtain ⟨more, hmore, installed⟩ := exists_rulesOf_installAll r installs id
  cases more with
  | nil => rw [hmore, List.append_nil]
  | cons rule rest => exact absurd rfl (others _ (installed rule List.mem_cons_self))

end Register

namespace Directory

variable {d : Directory} {ip : Ipv4} {ips : List Ipv4}

theorem nodup_watch (h : d.watched.Nodup) : (d.watch ip).watched.Nodup := by
  unfold watch
  split
  · exact h
  · rename_i absent
    have new : ip ∉ d.watched := fun present => absent (List.contains_iff_mem.2 present)
    exact List.nodup_append.2 ⟨h, by simp, fun old hold next hnext same => by
      obtain rfl := List.mem_singleton.1 hnext
      exact new (same ▸ hold)⟩

theorem nodup_watchAll (h : d.watched.Nodup) : (d.watchAll ips).watched.Nodup := by
  induction ips generalizing d with
  | nil => exact h
  | cons next ips ih => exact ih (nodup_watch h)

theorem watched_watchAll_of_all (h : ∀ next ∈ ips, next = ip) :
    (d.watchAll ips).watched = d.watched ∨
      ip ∉ d.watched ∧ (d.watchAll ips).watched = d.watched ++ [ip] := by
  cases ips with
  | nil => exact .inl rfl
  | cons next rest =>
      obtain rfl := h next List.mem_cons_self
      -- after the first time it is there
      have once : (d.watch next).watchAll rest = d.watch next :=
        watchAll_eq_self fun other hother => by
          rw [h other (List.mem_cons_of_mem _ hother)]
          exact mem_watch_iff.2 (.inr rfl)
      rw [watchAll_cons, once, watch]
      split
      · exact .inl rfl
      · rename_i absent
        exact .inr ⟨fun present => absent (List.contains_iff_mem.2 present), rfl⟩

end Directory

theorem Scene.eq_dst_of_mem_sought {scene : Scene} {class_ : RouteClass} {frame : Frame}
    {header : Ipv4Header} (hheader : frame.ipv4? = some header) {ip : Ipv4}
    (h : ip ∈ scene.sought class_ frame) : ip = header.dst := by
  simp only [sought, hheader] at h
  split at h
  · exact List.mem_singleton.1 h
  · exact absurd h List.not_mem_nil

namespace Engine

variable {e : Engine} {data : Bytes} {policy : Policy}

def Matches (e : Engine) (data : Bytes) (policy : Policy) : Prop :=
  ∃ frame src dst, Frame.ofBytes? data = some frame ∧ e.regionsOf? frame = some (src, dst) ∧
    policy.joins policy.action src dst = true

theorem matches_of_mem_installsOf {install : Install} (h : install ∈ e.installsOf data) :
    ∃ policy ∈ e.scene.register.policies, e.Matches data policy ∧ install.policy = policy.id := by
  obtain ⟨write, hwrite, rfl⟩ := List.mem_map.1 h
  cases hframe : Frame.ofBytes? data with
  | none => simp [writesOf, hframe] at hwrite
  | some frame =>
      cases hregions : e.regionsOf? frame with
      | none => simp [writesOf, hframe, hregions] at hwrite
      | some regions =>
          rw [writesOf_of_frame hframe hregions] at hwrite
          obtain ⟨policy, hmem, -, -, hid, -, -⟩ := Scene.exists_of_mem_writes hwrite
          obtain ⟨held, joins⟩ := List.mem_filter.1 hmem
          exact ⟨policy, held, ⟨frame, regions.1, regions.2, hframe, hregions, joins⟩, hid⟩

theorem exists_of_soughtBy (e : Engine) (data : Bytes) : e.soughtBy data = [] ∨
    ∃ frame header, Frame.ofBytes? data = some frame ∧ frame.ipv4? = some header ∧
      ∀ ip ∈ e.soughtBy data, ip = header.dst := by
  cases hframe : Frame.ofBytes? data with
  | none => exact .inl (by simp only [soughtBy, hframe])
  | some frame =>
      cases hregions : e.regionsOf? frame with
      | none => exact .inl (by simp only [soughtBy, hframe, hregions])
      | some regions =>
          obtain ⟨-, header, hheader, -, -⟩ := regionsOf?_eq_some_iff.1 hregions
          refine .inr ⟨frame, header, rfl, hheader, fun ip h => ?_⟩
          simp only [soughtBy, hframe, hregions] at h
          obtain ⟨policy, -, hsought⟩ := List.mem_flatMap.1 h
          exact Scene.eq_dst_of_mem_sought hheader hsought

/-! ## The effect of a packet -/

theorem uncounted_scene_process (e : Engine) (receiver : ConnectPoint) (data : Bytes) :
    (e.process receiver data).2.scene.uncounted =
      (e.scene.after (e.soughtBy data) (e.installsOf data)).uncounted := by
  rcases e.process_cases receiver data with ⟨hframe, answer⟩ |
    ⟨frame, hframe, hregions, answer⟩ | ⟨frame, src, dst, hframe, hregions, answer⟩
  · rw [answer]
    simp only [soughtBy, installsOf, writesOf, hframe]
    rfl
  · rw [answer, (untouched_classify (e := e.counting) receiver hregions).scene]
    simp only [soughtBy, installsOf, writesOf, hframe, hregions]
    rfl
  · rw [answer]
    simp only [soughtBy, installsOf, writesOf, hframe, hregions]
    exact congrArg Engine.scene (uncounted_dispatch e.counting frame src dst)

theorem regions_process (e : Engine) (receiver : ConnectPoint) (data : Bytes) :
    (e.process receiver data).2.regions = e.regions := by
  rcases e.process_cases receiver data with ⟨hframe, answer⟩ |
    ⟨frame, hframe, hregions, answer⟩ | ⟨frame, src, dst, hframe, hregions, answer⟩
  · rw [answer]
    rfl
  · rw [answer]
    exact (untouched_classify (e := e.counting) receiver hregions).regions
  · rw [answer]
    exact congrArg (fun e => e.regions) (uncounted_dispatch e.counting frame src dst)

theorem scene_process_of_unrouted {receiver : ConnectPoint}
    (h : ∀ matched installed, (e.process receiver data).1 ≠ .routed matched installed) :
    (e.process receiver data).2.scene = e.scene := by
  rcases e.process_cases receiver data with ⟨hframe, answer⟩ |
    ⟨frame, hframe, hregions, answer⟩ | ⟨frame, src, dst, hframe, hregions, answer⟩
  · rw [answer]
    rfl
  · rw [answer]
    exact (untouched_classify (e := e.counting) receiver hregions).scene
  · rw [answer] at h ⊢
    cases hpolicies : e.counting.policiesFor src dst with
    | nil =>
        simp only [dispatch, hpolicies]
        rfl
    | cons first rest =>
        -- one policy that joins the regions is enough for the packet to count as routed
        simp only [dispatch, hpolicies] at h
        exact absurd rfl (h _ _)

/-- What a packet may add to an engine, given how it was answered. -/
structure OnlyAdds (e : Engine) (data : Bytes) (answer : Disposition × Engine) : Prop where
  current : answer.2.scene.register.current = e.scene.register.current
  pending : answer.2.scene.register.pending = e.scene.register.pending
  version : answer.2.scene.register.version = e.scene.register.version
  log : answer.2.scene.register.log = e.scene.register.log
  regions : answer.2.regions = e.regions
  held : ∀ ruleId, e.scene.register.switches.contains ruleId = true →
    answer.2.scene.register.switches.contains ruleId = true
  others : ∀ id, (∀ policy ∈ e.scene.register.policies, e.Matches data policy → policy.id ≠ id) →
    answer.2.scene.register.rulesOf id = e.scene.register.rulesOf id
  owned : ∀ id, e.scene.register.rulesOf id <+: answer.2.scene.register.rulesOf id
  changed : ∀ ruleId, answer.2.scene.register.switches.rules.get? ruleId ≠
      e.scene.register.switches.rules.get? ruleId →
    ∃ policy ∈ e.scene.register.policies, e.Matches data policy ∧
      ∃ rule, (⟨policy.id, rule⟩ : Install) ∈ e.installsOf data ∧ rule.id = ruleId ∧
        answer.2.scene.register.switches.rules.get? ruleId = some rule ∧
        ruleId ∈ (answer.2.scene.register.rulesOf policy.id).map Rule.id
  unrouted : (∀ matched installed, answer.1 ≠ .routed matched installed) →
    answer.2.scene.register.switches = e.scene.register.switches ∧
    answer.2.scene.register.owned = e.scene.register.owned ∧
    answer.2.scene.directory.watched = e.scene.directory.watched
  watched : answer.2.scene.directory.watched = e.scene.directory.watched ∨
    ∃ frame header, Frame.ofBytes? data = some frame ∧ frame.ipv4? = some header ∧
      header.dst ∉ e.scene.directory.watched ∧
      answer.2.scene.directory.watched = e.scene.directory.watched ++ [header.dst]

theorem onlyAdds_process (e : Engine) (receiver : ConnectPoint) (data : Bytes) :
    OnlyAdds e data (e.process receiver data) := by
  have scene := uncounted_scene_process e receiver data
  have directory : (e.process receiver data).2.scene.directory =
      e.scene.directory.watchAll (e.soughtBy data) := congrArg Scene.directory scene
  have register : (e.process receiver data).2.scene.register.uncounted =
      (e.scene.register.installAll (e.installsOf data)).uncounted := congrArg Scene.register scene
  have rules : (e.process receiver data).2.scene.register.switches.rules =
      (e.scene.register.installAll (e.installsOf data)).switches.rules :=
    congrArg (fun r => r.switches.rules) register
  have owned : (e.process receiver data).2.scene.register.owned =
      (e.scene.register.installAll (e.installsOf data)).owned :=
    congrArg (fun r => r.owned) register
  have rulesOf : ∀ id, (e.process receiver data).2.scene.register.rulesOf id =
      (e.scene.register.installAll (e.installsOf data)).rulesOf id :=
    fun _ => Register.rulesOf_congr owned
  obtain ⟨current, pending, log, version⟩ :=
    Register.installAll_frame e.scene.register (e.installsOf data)
  exact
    { current := (congrArg Register.current register).trans current
      pending := (congrArg Register.pending register).trans pending
      version := (congrArg Register.version register).trans version
      log := (congrArg Register.log register).trans log
      regions := regions_process e receiver data
      held := by
        intro ruleId h
        rw [Switches.contains, rules]
        exact Register.contains_installAll h
      others := by
        intro id h
        rw [rulesOf]
        refine Register.rulesOf_installAll_of_others fun install hmem => ?_
        obtain ⟨policy, hpolicy, hmatches, same⟩ := matches_of_mem_installsOf hmem
        rw [same]
        exact h policy hpolicy hmatches
      owned := by
        intro id
        rw [rulesOf]
        exact Register.rulesOf_prefix_installAll _ _ id
      changed := by
        intro ruleId h
        rw [rules] at h ⊢
        obtain ⟨⟨id, rule⟩, hmem, hid, held, recorded⟩ := Register.exists_of_changed h
        obtain ⟨policy, hpolicy, hmatches, rfl⟩ := matches_of_mem_installsOf hmem
        refine ⟨policy, hpolicy, hmatches, rule, hmem, hid, held, ?_⟩
        rw [rulesOf]
        exact recorded
      unrouted := by
        intro h
        rw [scene_process_of_unrouted h]
        exact ⟨rfl, rfl, rfl⟩
      watched := by
        rw [directory]
        rcases e.exists_of_soughtBy data with nothing | ⟨frame, header, hframe, hheader, all⟩
        · rw [nothing]
          exact .inl rfl
        · refine (Directory.watched_watchAll_of_all all).imp_right fun added => ?_
          exact ⟨frame, header, hframe, hheader, added⟩ }

/-! ## Histories -/

/-- What can happen to an engine from its start on. -/
inductive Turn where
  | register (op : Register.Operation)
  | watch (ip : Ipv4)
  | route (class_ : RouteClass) (policy : Policy) (frame : Frame)
  | process (receiver : ConnectPoint) (data : Bytes)
  /-- All around the register and the watched addresses becomes what it is in another engine. -/
  | surroundings (other : Engine)

def turn (e : Engine) : Turn → Engine
  | .register op => e.withRegister (e.scene.register.perform op)
  | .watch ip => e.withDirectory (e.scene.directory.watch ip)
  | .route class_ policy frame => { e with scene := (e.scene.route class_ policy frame).2 }
  | .process receiver data => (e.process receiver data).2
  | .surroundings other =>
      { other with
        scene := { other.scene with
          register := e.scene.register
          directory := { other.scene.directory with watched := e.scene.directory.watched } } }

def lived (settings : Settings) (regions : Regions) (history : List Turn) : Engine :=
  history.foldl turn (start settings regions .empty)

structure Tidy (e : Engine) : Prop where
  filed : e.scene.register.Filed
  watched : e.scene.directory.watched.Nodup

theorem Tidy.turn (tidy : Tidy e) (change : Turn) : Tidy (e.turn change) := by
  cases change with
  | register op => exact ⟨tidy.filed.perform op, tidy.watched⟩
  | watch ip => exact ⟨tidy.filed, Directory.nodup_watch tidy.watched⟩
  | route class_ policy frame =>
      have directory : (e.scene.route class_ policy frame).2.directory =
          e.scene.directory.watchAll (e.scene.sought class_ frame) :=
        congrArg Scene.directory (e.scene.uncounted_route class_ policy frame)
      constructor
      · change (e.scene.route class_ policy frame).2.register.Filed
        rw [Scene.register_route]
        exact Register.filed_run tidy.filed _
      · change (e.scene.route class_ policy frame).2.directory.watched.Nodup
        rw [directory]
        exact Directory.nodup_watchAll tidy.watched
  | process receiver data =>
      have adds := onlyAdds_process e receiver data
      have directory : (e.process receiver data).2.scene.directory =
          e.scene.directory.watchAll (e.soughtBy data) :=
        congrArg Scene.directory (uncounted_scene_process e receiver data)
      refine ⟨⟨?_, ?_⟩, ?_⟩
      · intro id policy h
        exact tidy.filed.current id policy (adds.current ▸ h)
      · intro id policy h
        exact tidy.filed.pending id policy (adds.pending ▸ h)
      · change (e.process receiver data).2.scene.directory.watched.Nodup
        rw [directory]
        exact Directory.nodup_watchAll tidy.watched
  | surroundings other => exact ⟨tidy.filed, tidy.watched⟩

theorem tidy_lived (settings : Settings) (regions : Regions) (history : List Turn) :
    Tidy (lived settings regions history) := by
  have begun : Tidy (start settings regions .empty) := ⟨Register.filed_empty, List.nodup_nil⟩
  unfold lived
  generalize start settings regions .empty = e at begun
  induction history generalizing e with
  | nil => exact begun
  | cons change history ih => exact ih _ (begun.turn change)

theorem rulesOf_process_of_not_matches (filed : e.scene.register.Filed) (receiver : ConnectPoint)
    (held : policy ∈ e.scene.register.policies) (unmatched : ¬ e.Matches data policy) :
    (e.process receiver data).2.scene.register.rulesOf policy.id =
      e.scene.register.rulesOf policy.id := by
  refine (onlyAdds_process e receiver data).others policy.id fun other hother hmatches same => ?_
  -- under one id there is one policy
  have here := filed.mem_policies_iff.1 hother
  rw [same, filed.mem_policies_iff.1 held] at here
  exact unmatched (Option.some.inj here ▸ hmatches)

/--
A packet only adds, whatever engine it meets.  In an engine with a history the policies that do not
match the packet keep the rules they have, and no address is ever watched twice.
-/
theorem process_only_adds :
    (∀ e receiver data, OnlyAdds e data (e.process receiver data)) ∧
    ∀ settings regions history receiver data,
      let e := lived settings regions history
      (∀ policy ∈ e.scene.register.policies, ¬ e.Matches data policy →
        (e.process receiver data).2.scene.register.rulesOf policy.id =
          e.scene.register.rulesOf policy.id) ∧
      e.scene.directory.watched.Nodup ∧
      (e.process receiver data).2.scene.directory.watched.Nodup := by
  refine ⟨onlyAdds_process, fun settings regions history receiver data => ?_⟩
  have tidy := tidy_lived settings regions history
  refine ⟨fun policy held unmatched => ?_, tidy.watched, ?_⟩
  · exact rulesOf_process_of_not_matches tidy.filed receiver held unmatched
  · exact (tidy.turn (.process receiver data)).watched

end Engine

end PolicyRouting
