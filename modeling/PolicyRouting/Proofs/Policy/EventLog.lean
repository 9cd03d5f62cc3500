import PolicyRouting.Proofs.Policy.Operations

/-!
# What the log tells

Every step that makes a policy current, changes its state or removes it is
noted with the policy as it is afterwards.  Read from its start, the log gives
the table of current policies again: a withdrawal takes its policy out, every
other event puts it in.  Restoring is not noted, and a policy that is in the
state of a withdrawal when it comes in would be read as a removal.  Without
these two the log and the table never differ.
-/

namespace PolicyRouting

def Event.applied (event : Event) (table : Keyed PolicyId Policy) : Keyed PolicyId Policy :=
  if event.kind = .withdrawn then table.erase event.policy.id
  else table.insert event.policy.id event.policy

/-- The table that the events of a log make, one after the other. -/
def toldBy (log : List Event) : Keyed PolicyId Policy :=
  log.foldl (fun table event => event.applied table) .empty

@[simp] theorem toldBy_concat (log : List Event) (event : Event) :
    toldBy (log ++ [event]) = event.applied (toldBy log) := by
  simp [toldBy]

theorem Event.applied_ofPolicy {policy : Policy} (h : policy.state ≠ .withdrawn)
    (table : Keyed PolicyId Policy) :
    (Event.ofPolicy policy).applied table = table.insert policy.id policy := by
  simp [applied, ofPolicy, h]

theorem Event.applied_withdrawal (policy : Policy) (table : Keyed PolicyId Policy) :
    (Event.ofPolicy (policy.withState .withdrawn)).applied table = table.erase policy.id := by
  simp [applied, ofPolicy, Policy.withState]

namespace Register

variable {r r' : Register}

/-- The operation is noted if it changes a policy, and no policy that comes in is withdrawn. -/
def Noted (r : Register) : Operation → Prop
  | .add policy | .park policy => policy.state ≠ .withdrawn
  | .restore _ => False
  | .create build => ∀ built, build (PolicyId.next r.idsInUse) = .ok built →
      built.state ≠ .withdrawn
  | .setState _ state => state ≠ .withdrawn
  | _ => True

/-- A step changes neither the log nor the current policies, or it notes its one change of them. -/
inductive Entry (r r' : Register) : Prop where
  | silent (log : r'.log = r.log) (version : r'.version = r.version)
      (current : r'.current = r.current)
  | noted (policy : Policy) (log : r'.log = r.log ++ [.ofPolicy policy])
      (version : r'.version = r.version + 1)
      (current : r'.current = (Event.ofPolicy policy).applied r.current)

def NoneWithdrawn (r : Register) : Prop :=
  ∀ id policy, r.pending.get? id = some policy → policy.state ≠ .withdrawn

theorem entry_perform (filed : r.Filed) (parked : r.NoneWithdrawn) {op : Operation}
    (noted : r.Noted op) : Entry r (r.perform op) := by
  cases op with
  | add policy =>
      apply Entry.noted policy
      · rfl
      · rfl
      · exact (Event.applied_ofPolicy noted _).symm
  | restore policy => exact noted.elim
  | create build =>
      rcases r.perform_create build with same | ⟨built, hbuilt, after⟩
      · rw [same]
        exact .silent rfl rfl rfl
      · rw [after]
        have state : (built.withId (PolicyId.next r.idsInUse)).state ≠ .withdrawn :=
          noted built hbuilt
        exact .noted _ rfl rfl (Event.applied_ofPolicy state _).symm
  | park policy => exact .silent rfl rfl rfl
  | promote id =>
      rcases r.perform_promote id with same | ⟨policy, hpolicy, after⟩
      · rw [same]
        exact .silent rfl rfl rfl
      · obtain rfl : policy.id = id := filed.pending id policy hpolicy
        rw [after]
        exact .noted policy rfl rfl (Event.applied_ofPolicy (parked _ policy hpolicy) _).symm
  | setState id state =>
      rcases r.perform_setState id state with same | ⟨before, hbefore, after⟩
      · rw [same]
        exact .silent rfl rfl rfl
      · obtain rfl : before.id = id := filed.current id before hbefore
        rw [after]
        have changed : (before.withState state).state ≠ .withdrawn := noted
        exact .noted _ rfl rfl (Event.applied_ofPolicy changed _).symm
  | remove id =>
      rcases r.perform_remove id with ⟨-, same⟩ | ⟨policy, hpolicy, after⟩
      · rw [same]
        exact .silent rfl rfl rfl
      · obtain rfl : policy.id = id := filed.current id policy hpolicy
        rw [after]
        exact .noted _ rfl rfl (Event.applied_withdrawal policy _).symm
  | recordRule id rule =>
      simp only [perform, recordRule]
      split <;> exact .silent rfl rfl rfl
  | installRule id rule =>
      simp only [perform, installRule]
      split <;> exact .silent rfl rfl rfl

theorem NoneWithdrawn.perform (parked : r.NoneWithdrawn) {op : Operation} (noted : r.Noted op) :
    (r.perform op).NoneWithdrawn := by
  rw [NoneWithdrawn]
  rcases r.pending_perform op with same | ⟨id, left⟩ | ⟨policy, rfl, entered⟩
  · rw [same]
    exact parked
  · rw [left]
    exact Keyed.forall_erase parked id
  · rw [entered]
    exact Keyed.forall_insert parked noted

/-! ## A run -/

/-- The log tells the current policies, each event tells its policy's state, and all are counted. -/
structure Told (r : Register) : Prop where
  current : toldBy r.log = r.current
  kinds : ∀ event ∈ r.log, event.kind = event.policy.state
  version : r.version = r.log.length

theorem told_empty : Told empty where
  current := rfl
  kinds _ h := absurd h List.not_mem_nil
  version := rfl

theorem Told.entry (told : Told r) (h : Entry r r') : Told r' := by
  cases h with
  | silent log version current =>
      constructor
      · rw [log, current, told.current]
      · rw [log]
        exact told.kinds
      · rw [log, version, told.version]
  | noted policy log version current =>
      constructor
      · rw [log, current, toldBy_concat, told.current]
      · intro event h
        rw [log] at h
        rcases List.mem_append.1 h with old | new
        · exact told.kinds event old
        · obtain rfl := List.mem_singleton.1 new
          rfl
      · rw [log, version, told.version, List.length_append, List.length_singleton]

theorem told_run (told : Told r) (filed : r.Filed) (parked : r.NoneWithdrawn)
    {ops : List Operation} (noted : ∀ n op, ops[n]? = some op → (r.run (ops.take n)).Noted op) :
    Told (r.run ops) := by
  induction ops generalizing r with
  | nil => exact told
  | cons op ops ih =>
      have first : r.Noted op := noted 0 op rfl
      apply ih
      · exact told.entry (entry_perform filed parked first)
      · exact filed.perform op
      · exact parked.perform first
      · intro n later h
        exact noted (n + 1) later h

/--
After any run without restored policies in which no policy comes in withdrawn, the events give the
table of current policies again, each has the state of its policy as its kind, and the version is
their number.
-/
theorem log_tells_current (ops : List Operation)
    (noted : ∀ n op, ops[n]? = some op → (empty.run (ops.take n)).Noted op) :
    let r := empty.run ops
    toldBy r.log = r.current ∧ (∀ event ∈ r.log, event.kind = event.policy.state) ∧
      r.version = r.log.length := by
  intro r
  have parked : empty.NoneWithdrawn := fun _ _ h => by simp [empty] at h
  have told : Told r := told_run told_empty filed_empty parked noted
  exact ⟨told.current, told.kinds, told.version⟩

def campusRule : Rule := .make "a" ⟨[.ethType EtherType.ipv4]⟩ (.forward 1) 50 .permanent 0 "campus"

def campusLifecycle : List Operation :=
  [.create fun id => .ok (campusPolicy.withId id),
    .create fun _ => .error .unnamedProfile,
    .setState 0 .installed,
    .installRule 0 campusRule,
    .recordRule 7 campusRule,
    .add (campusPolicy.withId 1),
    .park { campusPolicy.withId 1 with priority := 60 },
    .promote 1,
    .promote 7,
    .setState 7 .failed,
    .remove 7,
    .remove 0]

theorem campusLifecycle_told :
    let r := empty.run campusLifecycle
    (∀ n op, campusLifecycle[n]? = some op → (empty.run (campusLifecycle.take n)).Noted op) ∧
      toldBy r.log = r.current ∧ (∀ event ∈ r.log, event.kind = event.policy.state) ∧
      r.version = r.log.length ∧ r.version = 5 ∧
      (r.policies.map fun policy => (policy.id, policy.priority)) = [(1, 60)] := by
  intro r
  have all : ∀ r, ∀ op ∈ campusLifecycle, Noted r op := by
    intro r
    simp [campusLifecycle, Noted, Policy.withId, campusPolicy]
  have noted : ∀ n op, campusLifecycle[n]? = some op →
      (empty.run (campusLifecycle.take n)).Noted op := by
    intro n op h
    exact all _ op (List.mem_of_getElem? h)
  obtain ⟨current, kinds, version⟩ := log_tells_current campusLifecycle noted
  exact ⟨noted, current, kinds, version, by decide, by decide⟩

end Register

end PolicyRouting
