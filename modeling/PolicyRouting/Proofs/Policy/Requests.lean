import PolicyRouting.Policy.Request
import PolicyRouting.Routing.Match

/-!
# The policies that requests create

A request becomes a draft, and the draft is checked under the id that is next.
Its class fits its regions: inside one region it is routed by address, between
two of them by IP.  So all policies of requests that join two given regions are
of one class.
-/

namespace PolicyRouting

theorem bind_eq_ok {α β : Type} {first : Except Fault α} {next : α → Except Fault β} {b : β}
    (h : first >>= next = .ok b) : ∃ a, first = .ok a ∧ next a = .ok b := by
  cases first with
  | error fault => simp [bind, Except.bind] at h
  | ok a => exact ⟨a, rfl, h⟩

def Request.build (request : Request) (serial : UInt64) (now : Timestamp) (id : PolicyId) :
    Except Fault Policy := do
  let draft ← request.draft serial
  { draft with id }.check now

/-- A request is refused before anything is created, or it creates the policy that it asks for. -/
theorem Register.createRequest_eq (r : Register) (request : Request) (serial : UInt64)
    (now : Timestamp) : r.createRequest request serial now = r.create (request.build serial now) := by
  unfold createRequest
  cases h : request.draft serial with
  | error fault =>
      have refused : request.build serial now (PolicyId.next r.idsInUse) = .error fault := by
        simp only [Request.build, h]
        rfl
      simp only [create, refused]
      rfl
  | ok draft =>
      have built : (fun id => { draft with id }.check now) = request.build serial now := by
        funext id
        simp only [Request.build, h]
        rfl
      rw [← built]
      rfl

def RouteClass.between (src dst : String) : RouteClass := if src = dst then .intra else .inter

def Policy.ClassFits (policy : Policy) : Prop :=
  policy.action = .between policy.srcRegion policy.dstRegion

theorem RouteClass.between_comm (src dst : String) :
    RouteClass.between src dst = RouteClass.between dst src := by
  simp only [RouteClass.between, eq_comm]

theorem Request.draft_regions {request : Request} {serial : UInt64} {draft : Draft}
    (h : request.draft serial = .ok draft) :
    ∃ src dst, draft.srcRegion = some src ∧ draft.dstRegion = some dst ∧
      Request.checkRegions draft.action src dst = .ok () := by
  unfold Request.draft at h
  obtain ⟨application, -, h⟩ := bind_eq_ok h
  obtain ⟨priority, -, h⟩ := bind_eq_ok h
  obtain ⟨action, -, h⟩ := bind_eq_ok h
  obtain ⟨partialPath, -, h⟩ := bind_eq_ok h
  obtain ⟨srcHosts, -, h⟩ := bind_eq_ok h
  obtain ⟨dstHosts, -, h⟩ := bind_eq_ok h
  obtain ⟨checked, hchecked, h⟩ := bind_eq_ok h
  obtain rfl := Except.ok.inj h
  exact ⟨_, _, rfl, rfl, hchecked⟩

theorem Request.action_of_checkRegions {action : RouteClass} {src dst : String}
    (h : Request.checkRegions action src dst = .ok ()) : action = .between src dst := by
  unfold RouteClass.between
  cases action with
  | intra =>
      by_cases same : src = dst
      · rw [if_pos same]
      · simp [Request.checkRegions, same] at h
  | inter =>
      by_cases same : src = dst
      · simp [Request.checkRegions, same] at h
      · rw [if_neg same]

/-- A draft that passes its checks is in order, and it is the policy but for what a draft has not. -/
theorem Draft.check_eq_ok {draft : Draft} {now : Timestamp} {policy : Policy}
    (h : draft.check now = .ok policy) :
    (1 ≤ draft.priority.toNat ∧ draft.priority.toNat ≤ 65535) ∧ draft.profile.name ≠ "" ∧
    ∃ srcRegion dstRegion, (draft.srcRegion = some srcRegion ∧ srcRegion ≠ "") ∧
      (draft.dstRegion = some dstRegion ∧ dstRegion ≠ "") ∧
      policy =
        { id := draft.id
          name := draft.profile.application.name ++ ":" ++ draft.profile.name
          priority := draft.priority.toUInt16
          state := draft.state
          version := draft.version
          action := draft.action
          srcRegion
          dstRegion
          srcHosts := draft.srcHosts
          dstHosts := draft.dstHosts
          partialPath := draft.partialPath
          preference := draft.preference
          profile := draft.profile
          createdAt := now } := by
  unfold Draft.check at h
  split at h
  · contradiction
  · rename_i inRange
    split at h
    · rename_i src dst hsrc hdst
      split at h
      · contradiction
      · rename_i named
        obtain ⟨hsrc, srcNamed⟩ := Option.filter_eq_some_iff.1 hsrc
        obtain ⟨hdst, dstNamed⟩ := Option.filter_eq_some_iff.1 hdst
        refine ⟨?_, named, src, dst, ⟨hsrc, of_decide_eq_true srcNamed⟩,
          ⟨hdst, of_decide_eq_true dstNamed⟩, (Except.ok.inj h).symm⟩
        simp only [UInt32.lt_iff_toNat_lt, not_or, Nat.not_lt] at inRange
        exact inRange
    · contradiction

theorem Request.classFits_of_build {request : Request} {serial : UInt64} {now : Timestamp}
    {id : PolicyId} {policy : Policy} (h : request.build serial now id = .ok policy) :
    policy.ClassFits := by
  unfold Request.build at h
  obtain ⟨draft, hdraft, hcheck⟩ := bind_eq_ok h
  obtain ⟨src, dst, hsrc, hdst, hregions⟩ := Request.draft_regions hdraft
  obtain ⟨-, -, src', dst', ⟨hsrc', -⟩, ⟨hdst', -⟩, rfl⟩ := Draft.check_eq_ok hcheck
  obtain rfl : src = src' := Option.some.inj (hsrc.symm.trans hsrc')
  obtain rfl : dst = dst' := Option.some.inj (hdst.symm.trans hdst')
  exact Request.action_of_checkRegions hregions

theorem Policy.ClassFits.action_of_joins {policy : Policy} (fits : policy.ClassFits)
    {src dst : String} (h : policy.joins policy.action src dst = true) :
    policy.action = .between src dst := by
  have regions : (policy.srcRegion = src ∧ policy.dstRegion = dst) ∨
      (policy.srcRegion = dst ∧ policy.dstRegion = src) := by
    cases haction : policy.action with
    | intra =>
        rw [haction] at h
        exact .inl (by simpa [Policy.joins] using h)
    | inter =>
        rw [haction] at h
        simpa [Policy.joins] using h
  rcases regions with ⟨rfl, rfl⟩ | ⟨rfl, rfl⟩
  · exact fits
  · rw [RouteClass.between_comm]
    exact fits

/-- What a policy of a request is, and stays in every state and under every id. -/
structure Policy.WellFormed (policy : Policy) : Prop where
  priority : 1 ≤ policy.priority.toNat ∧ policy.priority.toNat ≤ 65535
  srcRegion : policy.srcRegion ≠ ""
  dstRegion : policy.dstRegion ≠ ""
  profile : policy.profile.name ≠ ""
  name : policy.name = policy.application.name ++ ":" ++ policy.profile.name
  intra : policy.action = .intra → policy.srcRegion = policy.dstRegion
  inter : policy.action = .inter → policy.srcRegion ≠ policy.dstRegion

theorem RouteClass.between_eq_intra_iff {src dst : String} : between src dst = .intra ↔ src = dst := by
  unfold between
  split <;> simp_all

theorem RouteClass.between_eq_inter_iff {src dst : String} : between src dst = .inter ↔ src ≠ dst := by
  unfold between
  split <;> simp_all

theorem Request.wellFormed_of_build {request : Request} {serial : UInt64} {now : Timestamp}
    {id : PolicyId} {policy : Policy} (h : request.build serial now id = .ok policy) :
    policy.WellFormed := by
  have fits : policy.ClassFits := classFits_of_build h
  obtain ⟨draft, -, hcheck⟩ := bind_eq_ok h
  obtain ⟨⟨positive, small⟩, named, src, dst, ⟨-, hsrc⟩, ⟨-, hdst⟩, rfl⟩ :=
    Draft.check_eq_ok hcheck
  have same : draft.priority.toUInt16.toNat = draft.priority.toNat := by
    rw [UInt32.toNat_toUInt16]
    exact Nat.mod_eq_of_lt (Nat.lt_succ_of_le small)
  refine ⟨⟨?_, ?_⟩, hsrc, hdst, named, rfl, fun action => ?_, fun action => ?_⟩
  · exact same ▸ positive
  · exact same ▸ small
  · exact RouteClass.between_eq_intra_iff.1 (fits ▸ action)
  · exact RouteClass.between_eq_inter_iff.1 (fits ▸ action)

theorem Policy.WellFormed.withState {policy : Policy} (h : policy.WellFormed) (state : PolicyState) :
    (policy.withState state).WellFormed :=
  ⟨h.priority, h.srcRegion, h.dstRegion, h.profile, h.name, h.intra, h.inter⟩

theorem Policy.WellFormed.withId {policy : Policy} (h : policy.WellFormed) (id : PolicyId) :
    (policy.withId id).WellFormed :=
  ⟨h.priority, h.srcRegion, h.dstRegion, h.profile, h.name, h.intra, h.inter⟩

theorem Policy.WellFormed.classFits {policy : Policy} (h : policy.WellFormed) : policy.ClassFits := by
  rw [ClassFits]
  cases action : policy.action with
  | intra => exact (RouteClass.between_eq_intra_iff.2 (h.intra action)).symm
  | inter => exact (RouteClass.between_eq_inter_iff.2 (h.inter action)).symm

theorem Policy.WellFormed.joins_comm {policy : Policy} (h : policy.WellFormed) (src dst : String) :
    policy.joins policy.action src dst = policy.joins policy.action dst src := by
  cases action : policy.action with
  | intra =>
      have same := h.intra action
      simp only [joins, same]
      exact Bool.and_comm _ _
  | inter => exact Bool.or_comm _ _

end PolicyRouting
