import PolicyRouting.Fabric.Switches
import PolicyRouting.Policy.Draft

/-!
# The register of policies

Current policies govern traffic; pending ones are parked beside them.  A
current policy owns the rules that were recorded for it, and when it is
removed they are withdrawn from the devices with it.  Every change of a
policy's life is noted in the log; restoring and parking are no such changes.
An operation that fails changes nothing.

A new policy gets the smallest number that is not in use.  Up to the first
missing number each id in use stands at its own place, and behind it none does,
so the place where this changes is found by halving.

A snapshot has the current policies and the rules they own, without the
pending policies, the log and the devices.  Restoring it notes nothing and
writes no device.
-/

namespace PolicyRouting

namespace PolicyId

def ascending (used : List PolicyId) : Array PolicyId :=
  (used.foldl (fun table id => table.insert id ()) (Keyed.empty : Keyed PolicyId Unit)).keys.toArray

/-- The first place of a window that does not hold its own number; the end if all of them do. -/
@[semireducible]
def firstGap (ids : Array PolicyId) (lo hi : Nat) (inside : hi ≤ ids.size) : Nat :=
  if nonempty : lo < hi then
    let middle := lo + (hi - lo) / 2
    if ids[middle].toNat = middle then firstGap ids (middle + 1) hi inside
    else firstGap ids lo middle (by omega)
  else lo
termination_by hi - lo

def gap (used : List PolicyId) : Nat :=
  firstGap (ascending used) 0 (ascending used).size (Nat.le_refl _)

/-- The smallest id that is not in use; zero again where all of them are. -/
def next (used : List PolicyId) : PolicyId := UInt32.ofNat (gap used)

end PolicyId

structure Event where
  kind : PolicyState
  policy : Policy
  deriving DecidableEq, Repr

namespace Event

def typeName (event : Event) : String :=
  match event.kind with
  | .installRequested => "policy.install_req"
  | .installed => "policy.installed"
  | .failed => "policy.failed"
  | .withdrawRequested => "policy.withdraw_req"
  | .withdrawn => "policy.withdrawn"
  | .corrupt => "policy.corrupt"
  | .purged => "policy.purged"

def ofPolicy (policy : Policy) : Event := ⟨policy.state, policy⟩

end Event

structure Register where
  current : Keyed PolicyId Policy
  pending : Keyed PolicyId Policy
  owned : Keyed PolicyId (List Rule)
  log : List Event
  /-- How many changes were noted; below `2 ^ 64` a 64-bit counter shows the same. -/
  version : Nat
  switches : Switches
  deriving Inhabited

namespace Register

def empty : Register := ⟨Keyed.empty, Keyed.empty, Keyed.empty, [], 0, Switches.empty⟩

def policies (r : Register) : List Policy := r.current.values

def size (r : Register) : Nat := r.current.size

def find (r : Register) (id : PolicyId) : Except Fault Policy :=
  match r.current.get? id with
  | some policy => .ok policy
  | none => .error (.policyNotFound (PolicyId.text id))

def findText (r : Register) (s : String) : Except Fault Policy := do
  r.find (← PolicyId.ofText s)

def rulesOf (r : Register) (id : PolicyId) : List Rule := r.owned.getD id []

def rulesCount (r : Register) (id : PolicyId) : Nat := (r.rulesOf id).length

def idsInUse (r : Register) : List PolicyId := r.current.keys ++ r.pending.keys

def note (r : Register) (event : Event) : Register :=
  { r with log := r.log ++ [event], version := r.version + 1 }

def restore (r : Register) (policy : Policy) : Register :=
  { r with pending := r.pending.erase policy.id, current := r.current.insert policy.id policy }

def add (r : Register) (policy : Policy) : Register :=
  (r.restore policy).note (.ofPolicy policy)

def create (r : Register) (build : PolicyId → Except Fault Policy) :
    Except Fault (Policy × Register) := do
  let id := PolicyId.next r.idsInUse
  let policy := (← build id).withId id
  return (policy, { r with current := r.current.insert id policy }.note (.ofPolicy policy))

def park (r : Register) (policy : Policy) : Register :=
  { r with pending := r.pending.insert policy.id policy }

def promote (r : Register) (id : PolicyId) : Except Fault (Policy × Register) :=
  match r.pending.get? id with
  | none => .error (.policyNotFound (PolicyId.text id))
  | some policy =>
      .ok (policy,
        { r with pending := r.pending.erase id, current := r.current.insert id policy }.note
          (.ofPolicy policy))

def setState (r : Register) (id : PolicyId) (state : PolicyState) :
    Except Fault (Policy × Register) := do
  let policy := (← r.find id).withState state
  return (policy, { r with current := r.current.insert id policy }.note (.ofPolicy policy))

/-- Removes the policy and withdraws the rules it owns; tells how many there were. -/
def remove (r : Register) (id : PolicyId) : Except Fault (Nat × Register) := do
  let policy ← r.find id
  let rules := r.rulesOf id
  let left :=
    { r with
      current := r.current.erase id
      owned := r.owned.erase id
      switches := r.switches.withdraw rules }
  return (rules.length, left.note (.ofPolicy (policy.withState .withdrawn)))

/-- Records a rule that is in the devices already; tells whether the policy is current. -/
def recordRule (r : Register) (id : PolicyId) (rule : Rule) : Bool × Register :=
  if r.current.contains id then
    (true, { r with owned := r.owned.insert id (r.rulesOf id ++ [rule]) })
  else (false, r)

/-- Writes a rule for a current policy to its device; the policy owns it once. -/
def installRule (r : Register) (id : PolicyId) (rule : Rule) : Bool × Register :=
  if r.current.contains id then
    let rules := r.rulesOf id
    let rules := if rules.any (·.id = rule.id) then rules else rules ++ [rule]
    (true, { r with switches := r.switches.apply rule, owned := r.owned.insert id rules })
  else (false, r)

end Register

/-! ## Snapshots -/

structure OwnedRules where
  policy : PolicyId
  rules : List Rule
  deriving DecidableEq, Repr

structure Snapshot where
  policies : List Policy := []
  rules : List OwnedRules := []
  deriving DecidableEq, Repr

namespace Snapshot

/-- A policy without rules is not listed among the owners. -/
def capture (r : Register) : Snapshot where
  policies := r.policies
  rules := (r.policies.map fun policy => (⟨policy.id, r.rulesOf policy.id⟩ : OwnedRules)).filter
    fun owned => !owned.rules.isEmpty

def recordAll (r : Register) (owned : OwnedRules) : Register :=
  owned.rules.foldl (fun r rule => (r.recordRule owned.policy rule).2) r

def restore (snapshot : Snapshot) (r : Register) : Register :=
  snapshot.rules.foldl recordAll (snapshot.policies.foldl Register.restore r)

end Snapshot

end PolicyRouting
