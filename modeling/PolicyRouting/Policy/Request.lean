import PolicyRouting.Policy.Register

/-!
# Requests of an operator

A request holds the texts that an operator typed.  They are read in a fixed
order and the first that does not read is the fault, before anything is
changed: application, priority, action, connect points, source hosts,
destination hosts; then the two regions have to suit the action.  What reads
is a draft, and only a draft uses up a profile number.
-/

namespace PolicyRouting

structure Request where
  profileName : String
  application : Option String := none
  priority : Option String := none
  partialPath : Option String := none
  preference : Option String := none
  region : String
  dstRegion : Option String := none
  action : Option String := none
  srcHosts : Option String := none
  dstHosts : Option String := none
  deriving DecidableEq, Repr, Inhabited

namespace Request

def given {α : Type} (read : String → Except Fault α) (absent : α) :
    Option String → Except Fault α
  | none => .ok absent
  | some s => read s

def priorityOfText (s : String) : Except Fault UInt32 :=
  match Text.uint32? (Text.trim s.toList) with
  | some n => .ok n
  | none => .error (.priorityNotNumeric s)

/-- The destination region is the source region unless another one is named. -/
def regions (request : Request) : String × String :=
  let src := Text.trimmed request.region
  match request.dstRegion.map Text.trimmed with
  | none | some "" => (src, src)
  | some dst => (src, dst)

def checkRegions (action : RouteClass) (src dst : String) : Except Fault Unit :=
  match action with
  | .intra => if src = dst then .ok () else .error (.intraSpansRegions src dst)
  | .inter => if src = dst then .error .interWithinRegion else .ok ()

def draft (request : Request) (serial : UInt64) : Except Fault Draft := do
  let application ← given Application.ofText .web request.application
  let priority ← given priorityOfText 50 request.priority
  let action ← given RouteClass.ofActionText .intra request.action
  let partialPath ← given ConnectPoint.listOfText [] request.partialPath
  let srcHosts ← given HostId.listOfText [] request.srcHosts
  let dstHosts ← given HostId.listOfText [] request.dstHosts
  let (src, dst) := request.regions
  checkRegions action src dst
  return {
    profile := ⟨serial, Text.trimmed request.profileName, application, []⟩
    priority, action, srcHosts, dstHosts, partialPath
    srcRegion := some src
    dstRegion := some dst
    preference := (request.preference.map PathPreference.ofText).getD .bestPossible }

end Request

namespace Register

def createDraft (r : Register) (draft : Draft) (now : Timestamp) :
    Except Fault (Policy × Register) :=
  r.create fun id => { draft with id }.check now

def createRequest (r : Register) (request : Request) (serial : UInt64) (now : Timestamp) :
    Except Fault (Policy × Register) := do
  r.createDraft (← request.draft serial) now

def removeText (r : Register) (s : String) : Except Fault (Nat × Register) := do
  r.remove (← PolicyId.ofText s)

end Register

structure Summary where
  id : PolicyId
  profileName : String
  priority : UInt16
  application : String
  devices : List String
  srcHosts : List String
  dstHosts : List String
  srcRegion : String
  dstRegion : String
  action : String
  preference : String
  state : String
  rules : Nat
  deriving DecidableEq, Repr

namespace Register

def summary (r : Register) (policy : Policy) : Summary where
  id := policy.id
  profileName := policy.profile.name
  priority := policy.priority
  application := policy.application.name
  devices := policy.partialPath.map ConnectPoint.text
  srcHosts := policy.srcHosts.map HostId.text
  dstHosts := policy.dstHosts.map HostId.text
  srcRegion := policy.srcRegion
  dstRegion := policy.dstRegion
  action := policy.action.actionName
  preference := policy.preference.name
  state := policy.state.name
  rules := r.rulesCount policy.id

def summaries (r : Register) : List Summary := r.policies.map r.summary

def summaryOfText (r : Register) (s : String) : Except Fault Summary := do
  return r.summary (← r.findText s)

end Register

end PolicyRouting
