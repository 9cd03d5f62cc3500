import PolicyRouting.Proofs.Policy.Operations
import PolicyRouting.Proofs.Policy.Requests

/-!
# Attempts that fail

The operations of a register say what they leave where they succeed.  Here they
are carried out step by step on one register, and a step that fails takes none
of the steps before it back: a table may have been taken from, a rule withdrawn
or an id looked for.  Still, what is left is what the operation says, or all of
it as it was, because no attempt fails after a step that has changed something.
-/

namespace PolicyRouting.Register

/-- A program on one register; what its steps have changed stays changed when it fails. -/
abbrev Attempt := EStateM Fault Register

namespace Attempt

def orFault {α : Type} (fault : Fault) : Option α → Attempt α
  | some a => pure a
  | none => throw fault

def ofExcept {α : Type} : Except Fault α → Attempt α
  | .ok a => pure a
  | .error fault => throw fault

def takePending (id : PolicyId) : Attempt (Option Policy) :=
  modifyGet fun r => (r.pending.get? id, { r with pending := r.pending.erase id })

def takeCurrent (id : PolicyId) : Attempt (Option Policy) :=
  modifyGet fun r => (r.current.get? id, { r with current := r.current.erase id })

def takeRules (id : PolicyId) : Attempt (List Rule) :=
  modifyGet fun r => (r.rulesOf id, { r with owned := r.owned.erase id })

def enter (id : PolicyId) (policy : Policy) : Attempt Unit :=
  modify fun r => { r with current := r.current.insert id policy }

def own (id : PolicyId) (change : List Rule → List Rule) : Attempt Unit :=
  modify fun r => { r with owned := r.owned.insert id (change (r.rulesOf id)) }

def apply (rule : Rule) : Attempt Unit :=
  modify fun r => { r with switches := r.switches.apply rule }

def withdraw (rule : Rule) : Attempt Unit :=
  modify fun r => { r with switches := r.switches.withdraw [rule] }

def notify (event : Event) : Attempt Unit := do
  modify fun r => { r with version := r.version + 1 }
  modify fun r => { r with log := r.log ++ [event] }

def find (id : PolicyId) : Attempt Policy := do
  orFault (.policyNotFound (PolicyId.text id)) ((← get).current.get? id)

def create (build : PolicyId → Except Fault Policy) : Attempt Policy := do
  let id := PolicyId.next (← get).idsInUse
  let policy := (← ofExcept (build id)).withId id
  enter id policy
  notify (.ofPolicy policy)
  return policy

def promote (id : PolicyId) : Attempt Policy := do
  let policy ← orFault (.policyNotFound (PolicyId.text id)) (← takePending id)
  enter id policy
  notify (.ofPolicy policy)
  return policy

def setState (id : PolicyId) (state : PolicyState) : Attempt Policy := do
  let policy := (← find id).withState state
  enter id policy
  notify (.ofPolicy policy)
  return policy

def remove (id : PolicyId) : Attempt Nat := do
  let policy ← orFault (.policyNotFound (PolicyId.text id)) (← takeCurrent id)
  let rules ← takeRules id
  rules.forM withdraw
  notify (.ofPolicy (policy.withState .withdrawn))
  return rules.length

def createRequest (request : Request) (serial : UInt64) (now : Timestamp) : Attempt Policy := do
  let draft ← ofExcept (request.draft serial)
  create fun id => { draft with id }.check now

def removeText (s : String) : Attempt Nat := do
  remove (← ofExcept (PolicyId.ofText s))

def findText (s : String) : Attempt Policy := do
  find (← ofExcept (PolicyId.ofText s))

def summaryOfText (s : String) : Attempt Summary := do
  let policy ← findText s
  return (← get).summary policy

def recordRule (id : PolicyId) (rule : Rule) : Attempt Bool := do
  if (← get).current.contains id then
    own id (· ++ [rule])
    return true
  else
    return false

def installRule (id : PolicyId) (rule : Rule) : Attempt Bool := do
  if (← get).current.contains id then
    apply rule
    own id fun rules => ownedWith rules rule
    return true
  else
    return false

/-! ## What the steps do -/

section Steps

variable {α : Type} (r : Register)

@[simp] theorem run_orFault_some (fault : Fault) (a : α) : (orFault fault (some a)).run r = .ok a r :=
  rfl

@[simp] theorem run_orFault_none (fault : Fault) :
    (orFault (α := α) fault none).run r = .error fault r := rfl

@[simp] theorem run_takePending (id : PolicyId) : (takePending id).run r =
    .ok (r.pending.get? id) { r with pending := r.pending.erase id } := rfl

@[simp] theorem run_takeCurrent (id : PolicyId) : (takeCurrent id).run r =
    .ok (r.current.get? id) { r with current := r.current.erase id } := rfl

@[simp] theorem run_takeRules (id : PolicyId) : (takeRules id).run r =
    .ok (r.rulesOf id) { r with owned := r.owned.erase id } := rfl

@[simp] theorem run_enter (id : PolicyId) (policy : Policy) : (enter id policy).run r =
    .ok () { r with current := r.current.insert id policy } := rfl

@[simp] theorem run_notify (event : Event) : (notify event).run r = .ok () (r.note event) := rfl

@[simp] theorem run_forM_withdraw (rules : List Rule) : (rules.forM withdraw).run r =
    .ok () { r with switches := r.switches.withdraw rules } := by
  induction rules generalizing r with
  | nil => rfl
  | cons rule rules ih =>
      rw [Switches.withdraw_cons]
      exact ih { r with switches := r.switches.withdraw [rule] }

end Steps

/-- What an operation says of itself: where it fails it has changed nothing. -/
def settled {α : Type} (r : Register) : Except Fault (α × Register) → EStateM.Result Fault Register α
  | .ok (a, r') => .ok a r'
  | .error fault => .error fault r

def Reads {α : Type} (x : Attempt α) (r : Register) (result : Except Fault α) : Prop :=
  x.run r = settled r (result.map (·, r))

section Reads

variable {α β : Type} {x : Attempt β} {r : Register} {result : Except Fault β}

theorem reads_ofExcept (result : Except Fault β) : Reads (ofExcept result) r result := by
  cases result <;> rfl

theorem reads_find (id : PolicyId) : Reads (find id) r (r.find id) := by
  rw [Reads, Register.find]
  cases h : r.current.get? id <;>
    simp only [find, EStateM.run_bind, EStateM.run_get, h, run_orFault_some, run_orFault_none] <;>
    rfl

theorem Reads.run_bind (reads : Reads x r result) {next : β → Attempt α}
    {said : β → Except Fault (α × Register)} (same : ∀ b, (next b).run r = settled r (said b)) :
    (x >>= next).run r = settled r (result >>= said) := by
  rw [EStateM.run_bind, reads]
  cases result with
  | error fault => rfl
  | ok b => exact same b

theorem Reads.bind (reads : Reads x r result) {next : β → Attempt α} {said : β → Except Fault α}
    (same : ∀ b, Reads (next b) r (said b)) : Reads (x >>= next) r (result >>= said) := by
  rw [Reads, reads.run_bind same]
  cases result <;> rfl

end Reads

section Operations

variable (r : Register)

theorem run_create (build : PolicyId → Except Fault Policy) :
    (create build).run r = settled r (r.create build) :=
  (reads_ofExcept (build (PolicyId.next r.idsInUse))).run_bind fun _ => rfl

theorem run_promote (id : PolicyId) : (promote id).run r = settled r (r.promote id) := by
  cases h : r.pending.get? id with
  | none =>
      -- the table was taken from before the policy was found missing
      have untouched : r.pending.erase id = r.pending := Keyed.erase_eq_self h
      simp only [promote, Register.promote, EStateM.run_bind, run_takePending, h, run_orFault_none,
        untouched, settled]
  | some policy =>
      simp only [promote, Register.promote, EStateM.run_bind, run_takePending, h, run_orFault_some,
        run_enter, run_notify, EStateM.run_pure, settled]

theorem run_setState (id : PolicyId) (state : PolicyState) :
    (setState id state).run r = settled r (r.setState id state) :=
  (reads_find id).run_bind fun _ => rfl

theorem run_remove (id : PolicyId) : (remove id).run r = settled r (r.remove id) := by
  cases h : r.current.get? id with
  | none =>
      have untouched : r.current.erase id = r.current := Keyed.erase_eq_self h
      simp only [remove, Register.remove, Register.find, EStateM.run_bind, run_takeCurrent, h,
        run_orFault_none, untouched]
      rfl
  | some policy =>
      simp only [remove, Register.remove, Register.find, EStateM.run_bind, run_takeCurrent, h,
        run_orFault_some, run_takeRules, run_forM_withdraw, run_notify, EStateM.run_pure]
      rfl

theorem run_createRequest (request : Request) (serial : UInt64) (now : Timestamp) :
    (createRequest request serial now).run r = settled r (r.createRequest request serial now) :=
  (reads_ofExcept (request.draft serial)).run_bind fun _ => run_create r _

theorem run_removeText (s : String) : (removeText s).run r = settled r (r.removeText s) :=
  (reads_ofExcept (PolicyId.ofText s)).run_bind fun id => run_remove r id

theorem reads_findText (s : String) : Reads (findText s) r (r.findText s) :=
  (reads_ofExcept (PolicyId.ofText s)).bind fun id => reads_find id

theorem reads_summaryOfText (s : String) : Reads (summaryOfText s) r (r.summaryOfText s) :=
  (reads_findText r s).bind fun _ => rfl

theorem run_recordRule (id : PolicyId) (rule : Rule) :
    (recordRule id rule).run r = settled r (.ok (r.recordRule id rule)) := by
  cases h : r.current.contains id <;>
    simp only [recordRule, Register.recordRule, EStateM.run_bind, EStateM.run_get, h, if_true] <;>
    rfl

theorem run_installRule (id : PolicyId) (rule : Rule) :
    (installRule id rule).run r = settled r (.ok (r.installRule id rule)) := by
  cases h : r.current.contains id <;>
    simp only [installRule, Register.installRule, EStateM.run_bind, EStateM.run_get, h, if_true] <;>
    rfl

end Operations

end Attempt

section Success

variable {r r' : Register}

theorem version_create {build : PolicyId → Except Fault Policy} {policy : Policy}
    (h : r.create build = .ok (policy, r')) : r'.version = r.version + 1 := by
  obtain ⟨built, -, -, rfl⟩ := create_eq_ok h
  rfl

theorem version_remove {id : PolicyId} {count : Nat} (h : r.remove id = .ok (count, r')) :
    r'.version = r.version + 1 := by
  obtain ⟨policy, -, -, rfl⟩ := remove_eq_ok h
  rfl

theorem recordRule_eq_self_iff (r : Register) (id : PolicyId) (rule : Rule) :
    (r.recordRule id rule).2 = r ↔ (r.recordRule id rule).1 = false := by
  unfold recordRule
  split
  · refine iff_of_false (fun same => ?_) nofun
    have longer := congrArg (fun r => (r.rulesOf id).length) same
    simp only [rulesOf, Keyed.getD_insert, if_true, List.length_append, List.length_singleton] at longer
    omega
  · exact iff_of_true rfl rfl

theorem installRule_eq_self_iff (r : Register) (id : PolicyId) (rule : Rule) :
    (r.installRule id rule).2 = r ↔ (r.installRule id rule).1 = false := by
  unfold installRule
  split
  · refine iff_of_false (fun same => ?_) nofun
    have counted := congrArg (fun r => r.switches.applied) same
    simp [Switches.apply] at counted
  · exact iff_of_true rfl rfl

end Success

/-! ## Calls -/

inductive Call where
  | create (build : PolicyId → Except Fault Policy)
  | promote (id : PolicyId)
  | setState (id : PolicyId) (state : PolicyState)
  | remove (id : PolicyId)
  | createRequest (request : Request) (serial : UInt64) (now : Timestamp)
  | summaryOfText (s : String)
  | removeText (s : String)
  | recordRule (id : PolicyId) (rule : Rule)
  | installRule (id : PolicyId) (rule : Rule)

inductive Reply where
  | policy (policy : Policy)
  | summary (summary : Summary)
  | withdrew (count : Nat)
  | entered (isCurrent : Bool)

namespace Call

def attempt : Call → Attempt Reply
  | .create build => .policy <$> Attempt.create build
  | .promote id => .policy <$> Attempt.promote id
  | .setState id state => .policy <$> Attempt.setState id state
  | .remove id => .withdrew <$> Attempt.remove id
  | .createRequest request serial now => .policy <$> Attempt.createRequest request serial now
  | .summaryOfText s => .summary <$> Attempt.summaryOfText s
  | .removeText s => .withdrew <$> Attempt.removeText s
  | .recordRule id rule => .entered <$> Attempt.recordRule id rule
  | .installRule id rule => .entered <$> Attempt.installRule id rule

def replied {α : Type} (reply : α → Reply) (result : α × Register) : Reply × Register :=
  (reply result.1, result.2)

def said (r : Register) : Call → Except Fault (Reply × Register)
  | .create build => (r.create build).map (replied .policy)
  | .promote id => (r.promote id).map (replied .policy)
  | .setState id state => (r.setState id state).map (replied .policy)
  | .remove id => (r.remove id).map (replied .withdrew)
  | .createRequest request serial now =>
      (r.createRequest request serial now).map (replied .policy)
  | .summaryOfText s => (r.summaryOfText s).map fun summary => (.summary summary, r)
  | .removeText s => (r.removeText s).map (replied .withdrew)
  | .recordRule id rule => .ok (replied .entered (r.recordRule id rule))
  | .installRule id rule => .ok (replied .entered (r.installRule id rule))

def asks : Call → Bool
  | .summaryOfText _ => true
  | _ => false

/-- A call is refused with a fault, or with the reply that the policy of a rule is not current. -/
def Refused : EStateM.Result Fault Register Reply → Prop
  | .error _ _ => True
  | .ok reply _ => reply = .entered false

def after : EStateM.Result Fault Register Reply → Register
  | .error _ r | .ok _ r => r

variable {α : Type} {r r' : Register}

theorem run_map {x : Attempt α} {result : Except Fault (α × Register)}
    (h : x.run r = Attempt.settled r result) (reply : α → Reply) :
    (reply <$> x).run r = Attempt.settled r (result.map (replied reply)) := by
  change EStateM.map reply x r = _
  change x r = _ at h
  rw [EStateM.map, h]
  cases result <;> rfl

/-- What a call has left after its last step is what the operation says, failing or not. -/
theorem run_attempt (call : Call) (r : Register) :
    call.attempt.run r = Attempt.settled r (call.said r) := by
  cases call with
  | create build => exact run_map (Attempt.run_create r build) _
  | promote id => exact run_map (Attempt.run_promote r id) _
  | setState id state => exact run_map (Attempt.run_setState r id state) _
  | remove id => exact run_map (Attempt.run_remove r id) _
  | createRequest request serial now =>
      exact run_map (Attempt.run_createRequest r request serial now) _
  | removeText s => exact run_map (Attempt.run_removeText r s) _
  | summaryOfText s =>
      rw [attempt, run_map (Attempt.reads_summaryOfText r s), said]
      cases r.summaryOfText s <;> rfl
  | recordRule id rule => exact run_map (Attempt.run_recordRule r id rule) _
  | installRule id rule => exact run_map (Attempt.run_installRule r id rule) _

theorem map_replied_eq_ok {result : Except Fault (α × Register)} {reply : α → Reply} {told : Reply}
    (h : result.map (replied reply) = .ok (told, r')) :
    ∃ a, result = .ok (a, r') ∧ reply a = told := by
  cases result with
  | error fault => contradiction
  | ok pair =>
      obtain ⟨rfl, rfl⟩ := Prod.mk.inj (Except.ok.inj h)
      exact ⟨pair.1, rfl, rfl⟩

theorem said_eq_self_iff {call : Call} {reply : Reply} (h : call.said r = .ok (reply, r')) :
    r' = r ↔ reply = .entered false ∨ call.asks = true := by
  have shows : r'.version = r.version + 1 → r' ≠ r := by
    rintro later rfl
    omega
  cases call with
  | create build =>
      obtain ⟨policy, created, rfl⟩ := map_replied_eq_ok h
      exact iff_of_false (shows (version_create created)) (by simp [asks])
  | promote id =>
      obtain ⟨policy, promoted, rfl⟩ := map_replied_eq_ok h
      obtain ⟨-, rfl⟩ := promote_eq_ok promoted
      exact iff_of_false (shows rfl) (by simp [asks])
  | setState id state =>
      obtain ⟨policy, changed, rfl⟩ := map_replied_eq_ok h
      obtain ⟨before, -, -, rfl⟩ := setState_eq_ok changed
      exact iff_of_false (shows rfl) (by simp [asks])
  | remove id =>
      obtain ⟨count, removed, rfl⟩ := map_replied_eq_ok h
      exact iff_of_false (shows (version_remove removed)) (by simp [asks])
  | createRequest request serial now =>
      obtain ⟨policy, requested, rfl⟩ := map_replied_eq_ok h
      obtain ⟨draft, -, created⟩ := bind_eq_ok requested
      exact iff_of_false (shows (version_create created)) (by simp [asks])
  | removeText s =>
      obtain ⟨count, requested, rfl⟩ := map_replied_eq_ok h
      obtain ⟨id, -, removed⟩ := bind_eq_ok requested
      exact iff_of_false (shows (version_remove removed)) (by simp [asks])
  | summaryOfText s =>
      rw [said] at h
      cases found : r.summaryOfText s with
      | error fault =>
          rw [found] at h
          contradiction
      | ok summary =>
          rw [found] at h
          obtain ⟨-, rfl⟩ := Prod.mk.inj (Except.ok.inj h)
          exact iff_of_true rfl (.inr rfl)
  | recordRule id rule =>
      obtain ⟨rfl, rfl⟩ := Prod.mk.inj (Except.ok.inj h)
      simpa [replied, asks] using recordRule_eq_self_iff r id rule
  | installRule id rule =>
      obtain ⟨rfl, rfl⟩ := Prod.mk.inj (Except.ok.inj h)
      simpa [replied, asks] using installRule_eq_self_iff r id rule

/--
Every call, carried out step by step, gives the answer of its operation.  It leaves no trace, that
is the same policies, parked policies, owned rules, log, version, and devices with the same counts,
exactly where it is refused or asks for no change.
-/
theorem refused_leaves_no_trace (call : Call) (r : Register) :
    call.attempt.run r = Attempt.settled r (call.said r) ∧
    (after (call.attempt.run r) = r ↔ Refused (call.attempt.run r) ∨ call.asks = true) := by
  refine ⟨run_attempt call r, ?_⟩
  rw [run_attempt]
  cases h : call.said r with
  | error fault => exact iff_of_true rfl (.inl trivial)
  | ok result => exact said_eq_self_iff h

end Call

end PolicyRouting.Register
