import PolicyRouting.Proofs.Routing.HostFilter
import PolicyRouting.Proofs.Routing.Selectors

/-!
# Tagged hosts

The directory knows a host by its MAC address and its VLAN, and so do the lists
of a policy.  Inside a region a route asks for the two ends of a frame by their
MAC addresses alone, as if the frame had no tag, and gives the same two ids to
the host filter.  So of two known hosts an untagged frame finds both, and
passes the filter of each policy that lists them.  A tagged frame finds them
only where they are known without a tag as well, and there is always a policy
that lists the two and does not let the frame pass.
-/

namespace PolicyRouting

def Frame.srcId (frame : Frame) : HostId := ⟨frame.src, frame.vlan⟩

def Frame.dstId (frame : Frame) : HostId := ⟨frame.dst, frame.vlan⟩

namespace Policy

/-- The policy names the source, and the destination unless it leaves that open. -/
def Lists (policy : Policy) (src dst : HostId) : Prop :=
  src ∈ policy.srcHosts ∧ (policy.dstHosts = [] ∨ dst ∈ policy.dstHosts)

variable {frame : Frame}

theorem Lists.allowsHosts {policy : Policy} {src dst : HostId} (lists : policy.Lists src dst) :
    policy.allowsHosts src dst = true := by
  obtain ⟨hsrc, hdst⟩ := lists
  have froms : policy.srcHosts.isEmpty = false := by
    rw [List.isEmpty_eq_false_iff]
    exact List.ne_nil_of_mem hsrc
  unfold Policy.allowsHosts
  rcases hdst with anywhere | hdst
  · simp [froms, anywhere, hsrc]
  · cases tos : policy.dstHosts.isEmpty <;> simp [froms, tos, hsrc, hdst]

theorem listed_ends_pass_iff :
    (∀ policy : Policy, policy.Lists frame.srcId frame.dstId →
        policy.allowsHosts (.untagged frame.src) (.untagged frame.dst) = true) ↔
      frame.vlan = none := by
  constructor
  · intro pass
    -- a list of the source alone tells the source from an untagged host
    have own := pass (campusPolicy.withHosts [frame.srcId] []) ⟨List.mem_singleton_self _, .inl rfl⟩
    simp only [Policy.allowsHosts, withHosts, List.isEmpty_cons, List.isEmpty_nil, Bool.or_eq_true,
      List.contains_iff_mem, List.mem_singleton, HostId.untagged, Frame.srcId, HostId.mk.injEq] at own
    rcases own with ⟨-, untagged⟩ | ⟨-, untagged⟩
    · exact untagged.symm
    · exact untagged.symm
  · intro untagged policy lists
    rw [Frame.srcId, Frame.dstId, untagged] at lists
    exact lists.allowsHosts

end Policy

namespace Scene

variable {scene : Scene} {class_ : RouteClass} {policy : Policy} {frame : Frame}

/-- The route neither misses a host nor has an address watched. -/
def FindsHosts (scene : Scene) (class_ : RouteClass) (policy : Policy) (frame : Frame) : Prop :=
  let after := scene.route class_ policy frame
  after.1 ≠ .sourceUnknown ∧ after.1 ≠ .destinationUnknown ∧
    after.2.directory = scene.directory

theorem findsHosts_of_ends? {ends : Ends} (hends : scene.ends? class_ policy frame = some ends) :
    scene.FindsHosts class_ policy frame := by
  rw [FindsHosts, route_eq_connect hends]
  cases hchosen : (scene.chosen policy ends.src.location.device ends.dst.location.device).1 with
  | none =>
      rw [connect_of_not_chosen hchosen]
      exact ⟨by simp, by simp, rfl⟩
  | some choice =>
      rw [connect_of_chosen hchosen, install]
      split
      · exact ⟨by simp, by simp, rfl⟩
      · exact ⟨by simp, by simp, rfl⟩

theorem findsHosts_of_known {header : Ipv4Header} {src dst : Host}
    (hheader : frame.ipv4? = some header)
    (hsrc : scene.directory.source? class_ frame header = some src)
    (hdst : scene.directory.destination? class_ frame header = some dst) :
    scene.FindsHosts class_ policy frame := by
  cases hselector : scene.settings.selector? class_ frame policy (filteredId class_ frame dst) with
  | none =>
      cases class_ <;> simp only [filteredId] at hselector <;>
        simp [FindsHosts, route, hheader, hdst, hsrc, hselector]
  | some selector =>
      have hends : scene.ends? class_ policy frame = some ⟨src, dst, selector⟩ :=
        ends?_eq_some_iff.2 ⟨header, hheader, hdst, hsrc, hselector⟩
      exact findsHosts_of_ends? hends

theorem findsHosts_iff : scene.FindsHosts class_ policy frame ↔
    ∀ header, frame.ipv4? = some header →
      (scene.directory.source? class_ frame header).isSome = true ∧
      (scene.directory.destination? class_ frame header).isSome = true := by
  cases hheader : frame.ipv4? with
  | none =>
      -- a frame without an IP packet is turned away before its hosts are asked for
      simp [FindsHosts, route, hheader]
  | some header =>
      cases hdst : scene.directory.destination? class_ frame header with
      | none => simp [FindsHosts, route, hheader, hdst]
      | some dst =>
          cases hsrc : scene.directory.source? class_ frame header with
          | none => simp [FindsHosts, route, hheader, hdst, hsrc]
          | some src => simp [findsHosts_of_known hheader hsrc hdst, hdst, hsrc]

theorem findsHosts_intra_iff : scene.FindsHosts .intra policy frame ↔
    frame.ipv4? = none ∨
      (scene.directory.host? (.untagged frame.src)).isSome = true ∧
      (scene.directory.host? (.untagged frame.dst)).isSome = true := by
  rw [findsHosts_iff]
  cases frame.ipv4? <;> simp [Directory.source?, Directory.destination?]

/--
Where both ends of a frame are known under its tag, a route inside the region finds them, and every
policy that lists them lets them pass, exactly if the frame has no tag.  It finds the ends of a
tagged frame where both are known without a tag as well.
-/
theorem known_hosts_found_iff {src dst : Host}
    (hsrc : scene.directory.host? frame.srcId = some src)
    (hdst : scene.directory.host? frame.dstId = some dst) :
    ((∀ policy : Policy, scene.FindsHosts .intra policy frame ∧
        (policy.Lists frame.srcId frame.dstId →
          policy.allowsHosts (.untagged frame.src) (.untagged frame.dst) = true)) ↔
      frame.vlan = none) ∧
    ∀ policy, scene.FindsHosts .intra policy frame ↔
      frame.ipv4? = none ∨
        (scene.directory.host? (.untagged frame.src)).isSome = true ∧
        (scene.directory.host? (.untagged frame.dst)).isSome = true := by
  refine ⟨⟨?_, ?_⟩, fun policy => findsHosts_intra_iff⟩
  · intro served
    exact Policy.listed_ends_pass_iff.1 fun policy => (served policy).2
  · intro untagged policy
    have pass := Policy.listed_ends_pass_iff.2 untagged policy
    rw [Frame.srcId, untagged] at hsrc
    rw [Frame.dstId, untagged] at hdst
    refine ⟨findsHosts_intra_iff.2 (.inr ⟨?_, ?_⟩), pass⟩
    · exact Option.isSome_of_eq_some hsrc
    · exact Option.isSome_of_eq_some hdst

end Scene

theorem untagged_hosts_found :
    lineScene.directory.host? Settings.untaggedFrame.srcId = some westHost ∧
    lineScene.directory.host? Settings.untaggedFrame.dstId = some eastHost ∧
    ∀ policy : Policy, lineScene.FindsHosts .intra policy Settings.untaggedFrame ∧
      (policy.Lists westHost.id eastHost.id →
        policy.allowsHosts westHost.id eastHost.id = true) := by
  have hsrc : lineScene.directory.host? Settings.untaggedFrame.srcId = some westHost := by decide
  have hdst : lineScene.directory.host? Settings.untaggedFrame.dstId = some eastHost := by decide
  exact ⟨hsrc, hdst, (Scene.known_hosts_found_iff hsrc hdst).1.2 rfl⟩

def taggedSource : Host := ⟨⟨⟨2, 0, 0, 0, 0, 1⟩, some 42⟩, [⟨10, 0, 0, 1⟩], ⟨"a", 1⟩⟩

def taggedSink : Host := ⟨⟨⟨2, 0, 0, 0, 0, 2⟩, some 42⟩, [⟨10, 0, 0, 2⟩], ⟨"a", 2⟩⟩

def taggedPolicy : Policy := campusPolicy.withHosts [taggedSource.id] [taggedSink.id]

def taggedScene : Scene where
  settings := {}
  graph := Graph.empty
  directory := (Directory.empty.add taggedSource).add taggedSink
  register := Register.empty.add taggedPolicy
  chooser := {}

theorem tagged_hosts_missed :
    taggedScene.directory.host? Settings.voicedFrame.srcId = some taggedSource ∧
    taggedScene.directory.host? Settings.voicedFrame.dstId = some taggedSink ∧
    (taggedScene.route .intra taggedPolicy Settings.voicedFrame).1 = .destinationUnknown ∧
    (taggedScene.route .intra taggedPolicy Settings.voicedFrame).2.directory.watched =
      [⟨10, 0, 0, 2⟩] ∧
    taggedPolicy.Lists Settings.voicedFrame.srcId Settings.voicedFrame.dstId ∧
    taggedPolicy.allowsHosts (.untagged Settings.voicedFrame.src)
      (.untagged Settings.voicedFrame.dst) = false := by
  have lists : taggedPolicy.Lists Settings.voicedFrame.srcId Settings.voicedFrame.dstId :=
    ⟨List.mem_singleton_self _, .inr (List.mem_singleton_self _)⟩
  exact ⟨by decide, by decide, by decide, by decide, lists, by decide⟩

end PolicyRouting
