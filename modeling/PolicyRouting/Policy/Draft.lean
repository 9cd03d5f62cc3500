import PolicyRouting.Policy.Basic

/-!
# Drafts

A draft is a policy that has not been checked.  The checks run in a fixed
order: the priority, the two regions, the name of the profile.
-/

namespace PolicyRouting

structure Draft where
  profile : Profile
  id : PolicyId := 0
  priority : UInt32 := 50
  state : PolicyState := .installRequested
  version : UInt64 := 1
  action : RouteClass := .intra
  srcRegion : Option String := none
  dstRegion : Option String := none
  srcHosts : List HostId := []
  dstHosts : List HostId := []
  partialPath : List ConnectPoint := []
  preference : PathPreference := .bestPossible
  deriving DecidableEq, Repr

namespace Draft

def withRegions (draft : Draft) (src dst : String) : Draft :=
  { draft with srcRegion := some src, dstRegion := some dst }

/-- The region that was named; the empty name names none. -/
def named? (region : Option String) : Option String := region.filter (· ≠ "")

def check (draft : Draft) (now : Timestamp) : Except Fault Policy :=
  if draft.priority < 1 ∨ 65535 < draft.priority then .error (.priorityOutOfRange draft.priority)
  else match named? draft.srcRegion, named? draft.dstRegion with
    | some srcRegion, some dstRegion =>
        if draft.profile.name = "" then .error .unnamedProfile
        else
          .ok
            { id := draft.id
              name := draft.profile.application.name ++ ":" ++ draft.profile.name
              priority := draft.priority.toUInt16
              state := draft.state
              version := draft.version
              action := draft.action
              srcRegion
              dstRegion
              srcHosts := draft.srcHosts
              dstHosts := draft.dstHosts
              partialPath := draft.partialPath
              preference := draft.preference
              profile := draft.profile
              createdAt := now }
    | _, _ => .error .regionMissing

end Draft

end PolicyRouting
