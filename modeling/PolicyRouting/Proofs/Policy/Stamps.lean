import PolicyRouting.Calendar.Timestamp
import PolicyRouting.Policy.Register
import PolicyRouting.Proofs.Policy.Requests
import PolicyRouting.Proofs.Tables

/-!
# Stamps

A policy is stamped when it is made: with the time, and with the number of its
traffic profile.  Nothing that a register does depends on the stamps, nor on
the log or the devices, save for what is written there.  So an operation on the
bare register, from which all of these are taken away, has the same result up
to them.
-/

namespace PolicyRouting

def Profile.unstamped (profile : Profile) : Profile := { profile with serial := 0 }

def Policy.unstamped (policy : Policy) : Policy :=
  { policy with profile := policy.profile.unstamped, createdAt := .ofEpochNanos 0 }

@[simp] theorem Policy.unstamped_unstamped (policy : Policy) :
    policy.unstamped.unstamped = policy.unstamped := rfl

def Snapshot.unstamped (snapshot : Snapshot) : Snapshot :=
  { snapshot with policies := snapshot.policies.map Policy.unstamped }

def Draft.unstamped (draft : Draft) : Draft := { draft with profile := draft.profile.unstamped }

theorem Draft.check_unstamped (draft : Draft) (now : Timestamp) :
    (draft.check now).map Policy.unstamped = draft.unstamped.check (.ofEpochNanos 0) := by
  have priority : draft.unstamped.priority = draft.priority := rfl
  have name : draft.unstamped.profile.name = draft.profile.name := rfl
  have src : draft.unstamped.srcRegion = draft.srcRegion := rfl
  have dst : draft.unstamped.dstRegion = draft.dstRegion := rfl
  simp only [check, priority, name, src, dst]
  split
  · rfl
  · cases named? draft.srcRegion <;> cases named? draft.dstRegion <;> try rfl
    simp only
    split <;> rfl

theorem Request.draft_unstamped (request : Request) (serial : UInt64) :
    (request.draft serial).map Draft.unstamped = request.draft 0 := by
  show Draft.unstamped <$> request.draft serial = request.draft 0
  simp only [draft, map_bind, map_pure]
  rfl

theorem Request.build_unstamped (request : Request) (serial : UInt64) (now : Timestamp)
    (id : PolicyId) :
    (request.build serial now id).map Policy.unstamped =
      request.build 0 (.ofEpochNanos 0) id := by
  rw [build, build, ← draft_unstamped request serial]
  cases request.draft serial with
  | error fault => rfl
  | ok draft => exact Draft.check_unstamped { draft with id } now

namespace Register

/-- The register with its policies unstamped and nothing noted. -/
def unstamped (r : Register) : Register :=
  { r with current := r.current.map Policy.unstamped, log := [], version := 0 }

/-- The unstamped register over devices without rules. -/
def bare (r : Register) : Register := { r.unstamped with switches := .empty }

variable (r : Register)

theorem map_unstamped_twice (table : Keyed PolicyId Policy) :
    (table.map Policy.unstamped).map Policy.unstamped = table.map Policy.unstamped :=
  table.map_map_of_idem Policy.unstamped_unstamped

theorem bare_unstamped : r.unstamped.bare = r.bare := by
  simp only [bare, unstamped, map_unstamped_twice]

@[simp] theorem bare_bare : r.bare.bare = r.bare := by
  simp only [bare, unstamped, map_unstamped_twice]

theorem policies_unstamped : r.unstamped.policies = r.policies.map Policy.unstamped :=
  Keyed.values_map _ _

theorem idsInUse_bare : r.bare.idsInUse = r.idsInUse := by
  simp [idsInUse, bare, unstamped]

theorem find_bare (policy : PolicyId) :
    r.bare.find policy = (r.find policy).map Policy.unstamped := by
  have found : r.bare.current.get? policy = (r.current.get? policy).map Policy.unstamped :=
    Keyed.get?_map _ _ _
  rw [find, find, found]
  cases r.current.get? policy <;> rfl

theorem findText_bare (s : String) : r.bare.findText s = (r.findText s).map Policy.unstamped := by
  rw [findText, findText]
  cases PolicyId.ofText s with
  | error fault => rfl
  | ok id => exact r.find_bare id

theorem summaries_bare : r.bare.summaries = r.summaries := by
  have policies : r.bare.policies = r.policies.map Policy.unstamped := r.policies_unstamped
  rw [summaries, summaries, policies, List.map_map]
  rfl

theorem capture_bare : Snapshot.capture r.bare = (Snapshot.capture r).unstamped := by
  have policies : r.bare.policies = r.policies.map Policy.unstamped := r.policies_unstamped
  simp only [Snapshot.capture, Snapshot.unstamped, policies, List.map_map]
  rfl

theorem create_bare {build build' : PolicyId → Except Fault Policy}
    (same : ∀ id, (build id).map Policy.unstamped = build' id) :
    (r.create build).map (Prod.map Policy.unstamped bare) =
      (r.bare.create build').map (Prod.map Policy.unstamped bare) := by
  have first := same (PolicyId.next r.idsInUse)
  rw [create, create, idsInUse_bare, ← first]
  cases build (PolicyId.next r.idsInUse) with
  | error fault => rfl
  | ok built =>
      refine congrArg Except.ok (Prod.ext rfl ?_)
      simp only [Prod.map, bare, unstamped, note, Keyed.map_insert, map_unstamped_twice]
      rfl

theorem createRequest_bare (request : Request) (serial : UInt64) (now : Timestamp) :
    (r.createRequest request serial now).map (Prod.map Policy.unstamped bare) =
      (r.bare.createRequest request 0 (.ofEpochNanos 0)).map (Prod.map Policy.unstamped bare) := by
  rw [createRequest_eq, createRequest_eq]
  exact r.create_bare (request.build_unstamped serial now)

theorem removeText_bare (s : String) :
    (r.removeText s).map (Prod.map id bare) = (r.bare.removeText s).map (Prod.map id bare) := by
  rw [removeText, removeText]
  cases PolicyId.ofText s with
  | error fault => rfl
  | ok id =>
      show (r.remove id).map _ = (r.bare.remove id).map _
      rw [remove, remove, find_bare]
      cases r.find id with
      | error fault => rfl
      | ok policy =>
          refine congrArg Except.ok (Prod.ext rfl ?_)
          simp only [Prod.map, bare, unstamped, note, Keyed.map_erase, map_unstamped_twice]

theorem installRule_unstamped (policy : PolicyId) (rule : Rule) :
    r.unstamped.installRule policy rule = (r.installRule policy rule).map id unstamped := by
  have same : r.unstamped.current.contains policy = r.current.contains policy :=
    Keyed.contains_map _ _ _
  rw [installRule, installRule, same]
  split <;> rfl

end Register

end PolicyRouting
