import PolicyRouting.Calendar.Timestamp
import PolicyRouting.Policy.Register
import PolicyRouting.Proofs.Tables

/-!
# Runs of a register

A run is a list of operations, each performed on the register that the one
before it left.  An operation that fails leaves the register as it was.
`Change` says all that one operation can do to the policies, to the rules they
own and to the devices, so a property of runs needs one case for each of its
five forms.
-/

namespace PolicyRouting.Register

inductive Operation where
  | add (policy : Policy)
  | restore (policy : Policy)
  | create (build : PolicyId → Except Fault Policy)
  | park (policy : Policy)
  | promote (id : PolicyId)
  | setState (id : PolicyId) (state : PolicyState)
  | remove (id : PolicyId)
  | recordRule (id : PolicyId) (rule : Rule)
  | installRule (id : PolicyId) (rule : Rule)

def left {α : Type} (r : Register) : Except Fault (α × Register) → Register
  | .ok result => result.2
  | .error _ => r

def perform (r : Register) : Operation → Register
  | .add policy => r.add policy
  | .restore policy => r.restore policy
  | .create build => r.left (r.create build)
  | .park policy => r.park policy
  | .promote id => r.left (r.promote id)
  | .setState id state => r.left (r.setState id state)
  | .remove id => r.left (r.remove id)
  | .recordRule id rule => (r.recordRule id rule).2
  | .installRule id rule => (r.installRule id rule).2

def run (r : Register) (ops : List Operation) : Register := ops.foldl perform r

@[simp] theorem run_nil (r : Register) : r.run [] = r := rfl

@[simp] theorem run_cons (r : Register) (op : Operation) (ops : List Operation) :
    r.run (op :: ops) = (r.perform op).run ops := rfl

theorem run_append (r : Register) (ops more : List Operation) :
    r.run (ops ++ more) = (r.run ops).run more := List.foldl_append

/--
A property holds throughout a run exactly where every step fits the state it meets, if fitting is
what a step needs to keep the property.
-/
theorem throughout_iff {σ ω : Type} {step : σ → ω → σ} {Good Inv : σ → Prop} {Fits : σ → ω → Prop}
    (good_step : ∀ s op, Good s → Good (step s op))
    (inv_step : ∀ s op, Good s → Inv s → (Inv (step s op) ↔ Fits s op))
    {s : σ} (good : Good s) (inv : Inv s) (ops : List ω) :
    (∀ n, Inv ((ops.take n).foldl step s)) ↔
      ∀ n op, ops[n]? = some op → Fits ((ops.take n).foldl step s) op := by
  induction ops generalizing s with
  | nil => simpa using inv
  | cons op ops ih =>
      -- the first step is looked at apart, the others by the induction hypothesis
      have first := inv_step s op good inv
      constructor
      · intro all
        have after : Inv (step s op) := by simpa using all 1
        have later := (ih (good_step s op good) after).1 fun n => by simpa using all (n + 1)
        intro n next h
        cases n with
        | zero =>
            obtain rfl : op = next := by simpa using h
            exact first.1 after
        | succ n => exact later n next (by simpa using h)
      · intro fits n
        have after : Inv (step s op) := first.2 (fits 0 op (by simp))
        have later := (ih (good_step s op good) after).2 fun m next h => by
          simpa using fits (m + 1) next (by simpa using h)
        cases n with
        | zero => simpa using inv
        | succ n => simpa using later n

theorem find_eq_ok_iff {r : Register} {id : PolicyId} {policy : Policy} :
    r.find id = .ok policy ↔ r.current.get? id = some policy := by
  unfold find
  split <;> simp_all

theorem create_eq_ok {r r' : Register} {build : PolicyId → Except Fault Policy} {policy : Policy}
    (h : r.create build = .ok (policy, r')) :
    ∃ built, build (PolicyId.next r.idsInUse) = .ok built ∧
      policy = built.withId (PolicyId.next r.idsInUse) ∧
      r' = { r with current := r.current.insert policy.id policy }.note (.ofPolicy policy) := by
  unfold create at h
  cases hbuild : build (PolicyId.next r.idsInUse) with
  | error fault => simp [hbuild, bind, Except.bind] at h
  | ok built =>
      simp only [hbuild, bind, Except.bind, pure, Except.pure, Except.ok.injEq,
        Prod.mk.injEq] at h
      obtain ⟨rfl, rfl⟩ := h
      exact ⟨built, rfl, rfl, rfl⟩

theorem promote_eq_ok {r r' : Register} {id : PolicyId} {policy : Policy}
    (h : r.promote id = .ok (policy, r')) :
    r.pending.get? id = some policy ∧
      r' = { r with pending := r.pending.erase id, current := r.current.insert id policy }.note
        (.ofPolicy policy) := by
  unfold promote at h
  cases hpending : r.pending.get? id with
  | none => simp [hpending] at h
  | some parked =>
      simp only [hpending, Except.ok.injEq, Prod.mk.injEq] at h
      obtain ⟨rfl, rfl⟩ := h
      exact ⟨rfl, rfl⟩

theorem setState_eq_ok {r r' : Register} {id : PolicyId} {state : PolicyState} {policy : Policy}
    (h : r.setState id state = .ok (policy, r')) :
    ∃ before, r.current.get? id = some before ∧ policy = before.withState state ∧
      r' = { r with current := r.current.insert id policy }.note (.ofPolicy policy) := by
  unfold setState at h
  cases hfind : r.find id with
  | error fault => simp [hfind, bind, Except.bind] at h
  | ok before =>
      simp only [hfind, bind, Except.bind, pure, Except.pure, Except.ok.injEq,
        Prod.mk.injEq] at h
      obtain ⟨rfl, rfl⟩ := h
      exact ⟨before, find_eq_ok_iff.1 hfind, rfl, rfl⟩

theorem remove_eq_ok {r r' : Register} {id : PolicyId} {count : Nat}
    (h : r.remove id = .ok (count, r')) :
    ∃ policy, r.current.get? id = some policy ∧ count = (r.rulesOf id).length ∧
      r' = { r with
        current := r.current.erase id
        owned := r.owned.erase id
        switches := r.switches.withdraw (r.rulesOf id) }.note
          (.ofPolicy (policy.withState .withdrawn)) := by
  unfold remove at h
  cases hfind : r.find id with
  | error fault => simp [hfind, bind, Except.bind] at h
  | ok policy =>
      simp only [hfind, bind, Except.bind, pure, Except.pure, Except.ok.injEq,
        Prod.mk.injEq] at h
      obtain ⟨rfl, rfl⟩ := h
      exact ⟨policy, find_eq_ok_iff.1 hfind, rfl, rfl⟩

theorem perform_create (r : Register) (build : PolicyId → Except Fault Policy) :
    let id := PolicyId.next r.idsInUse
    r.perform (.create build) = r ∨
    ∃ built, build id = .ok built ∧ r.perform (.create build) =
      { r with current := r.current.insert id (built.withId id) }.note
        (.ofPolicy (built.withId id)) := by
  intro id
  simp only [perform]
  cases h : r.create build with
  | error fault => exact .inl rfl
  | ok result =>
      obtain ⟨built, hbuilt, hpolicy, hr⟩ := create_eq_ok h
      refine .inr ⟨built, hbuilt, ?_⟩
      rw [left, hr, hpolicy]
      rfl

theorem perform_promote (r : Register) (id : PolicyId) :
    r.perform (.promote id) = r ∨
    ∃ policy, r.pending.get? id = some policy ∧ r.perform (.promote id) =
      { r with pending := r.pending.erase id, current := r.current.insert id policy }.note
        (.ofPolicy policy) := by
  simp only [perform]
  cases h : r.promote id with
  | error fault => exact .inl rfl
  | ok result =>
      obtain ⟨hpending, hr⟩ := promote_eq_ok h
      exact .inr ⟨result.1, hpending, hr⟩

theorem perform_setState (r : Register) (id : PolicyId) (state : PolicyState) :
    r.perform (.setState id state) = r ∨
    ∃ before, r.current.get? id = some before ∧ r.perform (.setState id state) =
      { r with current := r.current.insert id (before.withState state) }.note
        (.ofPolicy (before.withState state)) := by
  simp only [perform]
  cases h : r.setState id state with
  | error fault => exact .inl rfl
  | ok result =>
      obtain ⟨before, hbefore, hpolicy, hr⟩ := setState_eq_ok h
      refine .inr ⟨before, hbefore, ?_⟩
      rw [left, hr, hpolicy]

theorem perform_remove (r : Register) (id : PolicyId) :
    (r.current.contains id = false ∧ r.perform (.remove id) = r) ∨
    ∃ policy, r.current.get? id = some policy ∧ r.perform (.remove id) =
      { r with
        current := r.current.erase id
        owned := r.owned.erase id
        switches := r.switches.withdraw (r.rulesOf id) }.note
          (.ofPolicy (policy.withState .withdrawn)) := by
  cases h : r.remove id with
  | error fault =>
      refine .inl ⟨Bool.eq_false_iff.2 fun isCurrent => ?_, by simp only [perform, h, left]⟩
      obtain ⟨policy, hpolicy⟩ := Keyed.contains_eq_true_iff.1 isCurrent
      simp [remove, find_eq_ok_iff.2 hpolicy, bind, Except.bind, pure, Except.pure] at h
  | ok result =>
      obtain ⟨policy, hpolicy, -, hr⟩ := remove_eq_ok h
      exact .inr ⟨policy, hpolicy, by simp only [perform, h, left, hr]⟩

/-! ## The forms of change -/

def ownedWith (rules : List Rule) (rule : Rule) : List Rule :=
  if rules.any (·.id = rule.id) then rules else rules ++ [rule]

/-- What an operation can do to the current policies, the owned rules and the devices. -/
inductive Change (r : Register) : Operation → Register → Prop where
  | idle (op : Operation) (r' : Register) (current : r'.current = r.current)
      (owned : r'.owned = r.owned) (switches : r'.switches = r.switches) : Change r op r'
  | enter (op : Operation) (r' : Register) (id : PolicyId) (policy : Policy)
      (current : r'.current = r.current.insert id policy)
      (owned : r'.owned = r.owned) (switches : r'.switches = r.switches) : Change r op r'
  | leave (id : PolicyId) (r' : Register) (isCurrent : r.current.contains id = true)
      (current : r'.current = r.current.erase id) (owned : r'.owned = r.owned.erase id)
      (switches : r'.switches = r.switches.withdraw (r.rulesOf id)) : Change r (.remove id) r'
  | record (id : PolicyId) (rule : Rule) (r' : Register)
      (isCurrent : r.current.contains id = true) (current : r'.current = r.current)
      (owned : r'.owned = r.owned.insert id (r.rulesOf id ++ [rule]))
      (switches : r'.switches = r.switches) : Change r (.recordRule id rule) r'
  | install (id : PolicyId) (rule : Rule) (r' : Register)
      (isCurrent : r.current.contains id = true) (current : r'.current = r.current)
      (owned : r'.owned = r.owned.insert id (ownedWith (r.rulesOf id) rule))
      (switches : r'.switches = r.switches.apply rule) : Change r (.installRule id rule) r'

theorem change_perform (r : Register) (op : Operation) : Change r op (r.perform op) := by
  cases op with
  | add policy => exact .enter _ _ policy.id policy rfl rfl rfl
  | restore policy => exact .enter _ _ policy.id policy rfl rfl rfl
  | create build =>
      rcases r.perform_create build with same | ⟨built, -, after⟩
      · rw [same]
        exact .idle _ _ rfl rfl rfl
      · rw [after]
        exact .enter _ _ _ _ rfl rfl rfl
  | park policy => exact .idle _ _ rfl rfl rfl
  | promote id =>
      rcases r.perform_promote id with same | ⟨policy, -, after⟩
      · rw [same]
        exact .idle _ _ rfl rfl rfl
      · rw [after]
        exact .enter _ _ id policy rfl rfl rfl
  | setState id state =>
      rcases r.perform_setState id state with same | ⟨before, -, after⟩
      · rw [same]
        exact .idle _ _ rfl rfl rfl
      · rw [after]
        exact .enter _ _ id _ rfl rfl rfl
  | remove id =>
      rcases r.perform_remove id with ⟨-, same⟩ | ⟨policy, hpolicy, after⟩
      · rw [same]
        exact .idle _ _ rfl rfl rfl
      · rw [after]
        exact .leave _ _ (Keyed.contains_eq_true_iff.2 ⟨policy, hpolicy⟩) rfl rfl rfl
  | recordRule id rule =>
      simp only [perform, recordRule]
      split
      · exact .record _ _ _ ‹_› rfl rfl rfl
      · exact .idle _ _ rfl rfl rfl
  | installRule id rule =>
      simp only [perform, installRule]
      split
      · exact .install _ _ _ ‹_› rfl rfl rfl
      · exact .idle _ _ rfl rfl rfl

theorem mem_ownedWith_iff {rules : List Rule} {rule : Rule} {id : UInt64} :
    id ∈ (ownedWith rules rule).map Rule.id ↔ id = rule.id ∨ id ∈ rules.map Rule.id := by
  unfold ownedWith
  split
  · rename_i h
    obtain ⟨same, hsame, hid⟩ := List.any_eq_true.1 h
    have present : rule.id ∈ rules.map Rule.id :=
      List.mem_map.2 ⟨same, hsame, of_decide_eq_true hid⟩
    constructor
    · exact .inr
    · rintro (rfl | h)
      · exact present
      · exact h
  · simp [or_comm]

theorem mem_ownedWith {rules : List Rule} {rule owned : Rule} :
    owned ∈ ownedWith rules rule ↔
      owned ∈ rules ∨ (owned = rule ∧ rule.id ∉ rules.map Rule.id) := by
  have listed : rules.any (·.id = rule.id) = true ↔ rule.id ∈ rules.map Rule.id := by
    simp
  unfold ownedWith
  split
  · rename_i h
    exact (or_iff_left fun new => new.2 (listed.1 h)).symm
  · rename_i h
    rw [List.mem_append, List.mem_singleton]
    exact or_congr_right (iff_self_and.2 fun _ hmem => h (listed.2 hmem))

theorem mem_of_mem_ownedWith {rules : List Rule} {rule owned : Rule}
    (h : owned ∈ ownedWith rules rule) : owned ∈ rules ∨ owned = rule :=
  (mem_ownedWith.1 h).imp_right And.left

theorem nodup_ownedWith {rules : List Rule} (rule : Rule) (h : (rules.map Rule.id).Nodup) :
    ((ownedWith rules rule).map Rule.id).Nodup := by
  unfold ownedWith
  split
  · exact h
  · rename_i absent
    have new : rule.id ∉ rules.map Rule.id := by
      intro hmem
      obtain ⟨same, hsame, hid⟩ := List.mem_map.1 hmem
      exact absent (List.any_eq_true.2 ⟨same, hsame, decide_eq_true hid⟩)
    rw [List.map_append, List.nodup_append]
    refine ⟨h, by simp, ?_⟩
    intro a ha b hb
    obtain rfl : b = rule.id := by simpa using hb
    exact fun hab => new (hab ▸ ha)

variable {r r' : Register} {id other : PolicyId} {rules : List Rule}

theorem rulesOf_congr (owned : r'.owned = r.owned) : r'.rulesOf id = r.rulesOf id := by
  rw [rulesOf, rulesOf, owned]

theorem rulesOf_of_insert (owned : r'.owned = r.owned.insert id rules) :
    r'.rulesOf other = if id = other then rules else r.rulesOf other := by
  rw [rulesOf, owned, Keyed.getD_insert, rulesOf]

theorem rulesOf_of_erase (owned : r'.owned = r.owned.erase id) :
    r'.rulesOf other = if id = other then [] else r.rulesOf other := by
  rw [rulesOf, owned, Keyed.getD_erase, rulesOf]

theorem pending_perform (r : Register) (op : Operation) :
    (r.perform op).pending = r.pending ∨
    (∃ id, (r.perform op).pending = r.pending.erase id) ∨
    ∃ policy, op = .park policy ∧ (r.perform op).pending = r.pending.insert policy.id policy := by
  cases op with
  | add policy | restore policy => exact .inr (.inl ⟨policy.id, rfl⟩)
  | create build =>
      rcases r.perform_create build with same | ⟨built, -, after⟩
      · rw [same]
        exact .inl rfl
      · rw [after]
        exact .inl rfl
  | park policy => exact .inr (.inr ⟨policy, rfl, rfl⟩)
  | promote id =>
      rcases r.perform_promote id with same | ⟨policy, -, after⟩
      · rw [same]
        exact .inl rfl
      · rw [after]
        exact .inr (.inl ⟨id, rfl⟩)
  | setState id state =>
      rcases r.perform_setState id state with same | ⟨before, -, after⟩
      · rw [same]
        exact .inl rfl
      · rw [after]
        exact .inl rfl
  | remove id =>
      rcases r.perform_remove id with ⟨-, same⟩ | ⟨policy, -, after⟩
      · rw [same]
        exact .inl rfl
      · rw [after]
        exact .inl rfl
  | recordRule id rule =>
      simp only [perform, recordRule]
      split <;> exact .inl rfl
  | installRule id rule =>
      simp only [perform, installRule]
      split <;> exact .inl rfl

/-! ## Policies under their own ids -/

/-- Each policy is kept under the id that it has. -/
structure Filed (r : Register) : Prop where
  current : ∀ id policy, r.current.get? id = some policy → policy.id = id
  pending : ∀ id policy, r.pending.get? id = some policy → policy.id = id

theorem filed_empty : Filed empty := ⟨fun _ _ h => by simp [empty] at h, fun _ _ h => by
  simp [empty] at h⟩

theorem Filed.perform (filed : Filed r) (op : Operation) : Filed (r.perform op) := by
  cases op with
  | add policy =>
      exact ⟨Keyed.forall_insert filed.current rfl, Keyed.forall_erase filed.pending _⟩
  | restore policy =>
      exact ⟨Keyed.forall_insert filed.current rfl, Keyed.forall_erase filed.pending _⟩
  | create build =>
      rcases r.perform_create build with same | ⟨built, -, after⟩
      · rw [same]
        exact filed
      · rw [after]
        exact ⟨Keyed.forall_insert filed.current rfl, filed.pending⟩
  | park policy => exact ⟨filed.current, Keyed.forall_insert filed.pending rfl⟩
  | promote id =>
      rcases r.perform_promote id with same | ⟨policy, parked, after⟩
      · rw [same]
        exact filed
      · rw [after]
        exact ⟨Keyed.forall_insert filed.current (filed.pending id policy parked),
          Keyed.forall_erase filed.pending _⟩
  | setState id state =>
      rcases r.perform_setState id state with same | ⟨before, hbefore, after⟩
      · rw [same]
        exact filed
      · rw [after]
        have own : (before.withState state).id = id := filed.current id before hbefore
        exact ⟨Keyed.forall_insert filed.current own, filed.pending⟩
  | remove id =>
      rcases r.perform_remove id with ⟨-, same⟩ | ⟨policy, -, after⟩
      · rw [same]
        exact filed
      · rw [after]
        exact ⟨Keyed.forall_erase filed.current _, filed.pending⟩
  | recordRule id rule =>
      simp only [Register.perform, recordRule]
      split
      · exact ⟨filed.current, filed.pending⟩
      · exact filed
  | installRule id rule =>
      simp only [Register.perform, installRule]
      split
      · exact ⟨filed.current, filed.pending⟩
      · exact filed

theorem filed_run (filed : Filed r) (ops : List Operation) : Filed (r.run ops) := by
  induction ops generalizing r with
  | nil => exact filed
  | cons op ops ih => exact ih (filed.perform op)

theorem Filed.mem_policies_iff (filed : Filed r) {policy : Policy} :
    policy ∈ r.policies ↔ r.current.get? policy.id = some policy := by
  rw [policies, Keyed.mem_values_iff]
  constructor
  · rintro ⟨id, h⟩
    rw [filed.current id policy h]
    exact h
  · exact fun h => ⟨_, h⟩

theorem Filed.contains_of_mem_policies (filed : Filed r) {policy : Policy}
    (h : policy ∈ r.policies) : r.current.contains policy.id = true :=
  Keyed.contains_eq_true_iff.2 ⟨policy, filed.mem_policies_iff.1 h⟩

theorem length_idsInUse_perform_le (r : Register) (op : Operation) :
    (r.perform op).idsInUse.length ≤ r.idsInUse.length + 1 := by
  simp only [idsInUse, List.length_append]
  cases op with
  | add policy | restore policy =>
      have current := r.current.length_keys_insert_le policy.id policy
      have pending := r.pending.length_keys_erase_le policy.id
      simp only [perform, Register.add, Register.restore, note]
      omega
  | create build =>
      rcases r.perform_create build with same | ⟨built, -, after⟩
      · rw [same]
        omega
      · have current := r.current.length_keys_insert_le (PolicyId.next r.idsInUse)
          (built.withId (PolicyId.next r.idsInUse))
        rw [after]
        simp only [note]
        omega
  | park policy =>
      have pending := r.pending.length_keys_insert_le policy.id policy
      simp only [perform, Register.park]
      omega
  | promote id =>
      rcases r.perform_promote id with same | ⟨policy, -, after⟩
      · rw [same]
        omega
      · have current := r.current.length_keys_insert_le id policy
        have pending := r.pending.length_keys_erase_le id
        rw [after]
        simp only [note]
        omega
  | setState id state =>
      rcases r.perform_setState id state with same | ⟨before, -, after⟩
      · rw [same]
        omega
      · have current := r.current.length_keys_insert_le id (before.withState state)
        rw [after]
        simp only [note]
        omega
  | remove id =>
      rcases r.perform_remove id with ⟨-, same⟩ | ⟨policy, -, after⟩
      · rw [same]
        omega
      · have current := r.current.length_keys_erase_le id
        rw [after]
        simp only [note]
        omega
  | recordRule id rule =>
      simp only [perform, recordRule]
      split <;> simp only [] <;> omega
  | installRule id rule =>
      simp only [perform, installRule]
      split <;> simp only [] <;> omega

end PolicyRouting.Register

namespace PolicyRouting

def campusPolicy : Policy where
  id := 0
  name := "WEB:campus"
  priority := 50
  state := .installRequested
  version := 1
  action := .intra
  srcRegion := "campus"
  dstRegion := "campus"
  srcHosts := []
  dstHosts := []
  partialPath := []
  preference := .bestPossible
  profile := ⟨1, "campus", .web, []⟩
  createdAt := .ofEpochNanos 0

end PolicyRouting
