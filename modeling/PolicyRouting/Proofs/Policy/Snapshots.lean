import PolicyRouting.Policy.Register
import PolicyRouting.Proofs.Policy.Ownership
import PolicyRouting.Proofs.Tables

/-!
# Registers behind snapshots

Restoring records rules for current policies only, and a snapshot lists the
rules of current policies only.  Neither loses a rule: in every register that
operations lead to, only current policies own rules, and no policy is listed
as the owner of nothing.  So a snapshot of such a register, restored into an
empty one, gives the same policies and the same rules, in their order.
-/

namespace PolicyRouting

namespace Register

variable {r r' : Register} {id : PolicyId}

/-- Who is listed as an owner owns a rule. -/
def Listed (r : Register) : Prop := ∀ id rules, r.owned.get? id = some rules → rules ≠ []

theorem listed_empty : Listed empty := fun _ _ h => by simp [empty] at h

theorem get?_owned (listed : Listed r) (id : PolicyId) :
    r.owned.get? id = if r.rulesOf id = [] then none else some (r.rulesOf id) := by
  rw [rulesOf, Keyed.getD]
  cases h : r.owned.get? id with
  | none => rfl
  | some rules => simp [listed id rules h]

theorem owned_eq_of_rulesOf (listed : Listed r) (listed' : Listed r')
    (same : ∀ id, r.rulesOf id = r'.rulesOf id) : r.owned = r'.owned :=
  Keyed.ext_get? fun id => by rw [get?_owned listed, get?_owned listed', same]

theorem Listed.insert {rules : List Rule} (listed : Listed r) (owns : rules ≠ [])
    (owned : r'.owned = r.owned.insert id rules) : Listed r' := by
  intro other found h
  rw [owned, Keyed.get?_insert] at h
  split at h
  · obtain rfl := Option.some.inj h
    exact owns
  · exact listed other found h

theorem Listed.change {op : Operation} (listed : Listed r) (h : Change r op r') : Listed r' := by
  cases h with
  | idle _ _ _ owned _ | enter _ _ _ _ _ owned _ => exact fun id rules => owned ▸ listed id rules
  | leave id _ _ _ owned _ =>
      intro other found h
      rw [owned, Keyed.get?_erase] at h
      split at h
      · contradiction
      · exact listed other found h
  | record id rule _ _ _ owned _ => exact listed.insert (by simp) owned
  | install id rule _ _ _ owned _ =>
      refine listed.insert (fun none_owned => ?_) owned
      have present : rule.id ∈ (ownedWith (r.rulesOf id) rule).map Rule.id :=
        mem_ownedWith_iff.2 (.inl rfl)
      simp [none_owned] at present

/-- Each policy is under its id, and exactly the owners of rules, all current, are listed. -/
structure Kept (r : Register) : Prop where
  filed : Filed r
  owner_current : ∀ id, r.rulesOf id ≠ [] → r.current.contains id = true
  listed : Listed r

theorem kept_empty : Kept empty := ⟨filed_empty, accounted_empty.owner_current, listed_empty⟩

theorem Kept.congr (kept : Kept r) (current : r'.current = r.current)
    (pending : r'.pending = r.pending) (owned : r'.owned = r.owned) : Kept r' where
  filed := ⟨current ▸ kept.filed.current, pending ▸ kept.filed.pending⟩
  owner_current id := by
    rw [rulesOf_congr owned, current]
    exact kept.owner_current id
  listed := fun id rules => owned ▸ kept.listed id rules

theorem Kept.perform (kept : Kept r) (op : Operation) : Kept (r.perform op) :=
  have change := change_perform r op
  ⟨kept.filed.perform op, owner_current_of_change change kept.owner_current,
    kept.listed.change change⟩

theorem kept_run (kept : Kept r) (ops : List Operation) : Kept (r.run ops) := by
  induction ops generalizing r with
  | nil => exact kept
  | cons op ops ih => exact ih (kept.perform op)

end Register

namespace Snapshot

open Register (Kept Listed rulesOf_of_insert)

variable {r : Register}

theorem recordAll_spec {owned : OwnedRules} (isCurrent : r.current.contains owned.policy = true) :
    let after := recordAll r owned
    after = { r with owned := after.owned } ∧
      ∀ id, after.rulesOf id =
        if owned.policy = id then r.rulesOf id ++ owned.rules else r.rulesOf id := by
  obtain ⟨policy, rules⟩ := owned
  simp only [recordAll]
  induction rules generalizing r with
  | nil => simp
  | cons rule rules ih =>
      have recorded : (r.recordRule policy rule).2 =
          { r with owned := r.owned.insert policy (r.rulesOf policy ++ [rule]) } := by
        rw [Register.recordRule, if_pos isCurrent]
      obtain ⟨frame, owns⟩ :=
        ih (r := (r.recordRule policy rule).2) (by rw [recorded]; exact isCurrent)
      rw [List.foldl_cons]
      refine ⟨frame.trans ?_, fun id => ?_⟩
      · rw [recorded]
      · rw [owns id, recorded, rulesOf_of_insert rfl]
        by_cases same : policy = id
        · subst same
          simp
        · simp [same]

theorem listed_recordAll (listed : Listed r) (owned : OwnedRules) :
    Listed (recordAll r owned) := by
  obtain ⟨policy, rules⟩ := owned
  simp only [recordAll]
  induction rules generalizing r with
  | nil => exact listed
  | cons rule rules ih =>
      exact ih (listed.change (Register.change_perform r (.recordRule policy rule)))

theorem foldl_recordAll_spec {owners : List OwnedRules}
    (current : ∀ owned ∈ owners, r.current.contains owned.policy = true)
    (once : (owners.map OwnedRules.policy).Nodup) (listed : Listed r) :
    let after := owners.foldl recordAll r
    after = { r with owned := after.owned } ∧ Listed after ∧
      (∀ owned ∈ owners, after.rulesOf owned.policy = r.rulesOf owned.policy ++ owned.rules) ∧
      ∀ id ∉ owners.map OwnedRules.policy, after.rulesOf id = r.rulesOf id := by
  induction owners generalizing r with
  | nil => simp [listed]
  | cons first rest ih =>
      obtain ⟨absent, once⟩ := List.nodup_cons.1 once
      obtain ⟨frame, owns⟩ := recordAll_spec (current first List.mem_cons_self)
      have policies : (recordAll r first).current = r.current := by rw [frame]
      have later : ∀ owned ∈ rest, (recordAll r first).current.contains owned.policy = true :=
        fun owned h => policies ▸ current owned (List.mem_cons_of_mem _ h)
      obtain ⟨frame', listed', members, others⟩ :=
        ih later once (listed_recordAll listed first)
      refine ⟨?_, listed', fun owned h => ?_, fun id h => ?_⟩
      · rw [List.foldl_cons]
        refine frame'.trans ?_
        rw [frame]
      · rcases List.mem_cons.1 h with rfl | h
        · rw [List.foldl_cons, others _ absent, owns, if_pos rfl]
        · have distinct : first.policy ≠ owned.policy := fun same =>
            absent (same ▸ List.mem_map_of_mem h)
          rw [List.foldl_cons, members owned h, owns, if_neg distinct]
      · rw [List.map_cons, List.mem_cons, not_or] at h
        rw [List.foldl_cons, others id h.2, owns, if_neg (Ne.symm h.1)]

theorem foldl_restore_eq (policies : List Policy) (current : Keyed PolicyId Policy)
    (devices : Switches) :
    policies.foldl Register.restore
        { Register.empty with current := current, switches := devices } =
      { Register.empty with
        current := policies.foldl (fun table policy => table.insert policy.id policy) current
        switches := devices } := by
  induction policies generalizing current with
  | nil => rfl
  | cons policy rest ih => exact ih (current.insert policy.id policy)

theorem foldl_insert_policies (filed : r.Filed) :
    r.policies.foldl (fun table policy => table.insert policy.id policy) Keyed.empty =
      r.current := by
  have own : ∀ e ∈ r.current.entries, e.2.id = e.1 := fun e h =>
    filed.current e.1 e.2 (Keyed.mem_entries_iff.1 h)
  rw [Register.policies, Keyed.values, List.foldl_map]
  conv_rhs => rw [← Keyed.foldl_insert_entries r.current]
  exact List.foldl_ext _ _ _ fun table e h => by rw [own e h]

theorem map_id_policies (filed : r.Filed) : r.policies.map Policy.id = r.current.keys := by
  rw [Register.policies, Keyed.values, Keyed.keys, List.map_map]
  exact List.map_congr_left fun e h => filed.current e.1 e.2 (Keyed.mem_entries_iff.1 h)

theorem mem_rules_capture {owned : OwnedRules} :
    owned ∈ (capture r).rules ↔
      owned.rules ≠ [] ∧ ∃ policy ∈ r.policies, owned = ⟨policy.id, r.rulesOf policy.id⟩ := by
  simp only [capture, List.mem_filter, List.mem_map, Bool.not_eq_true', List.isEmpty_eq_false_iff]
  rw [and_comm]
  simp only [eq_comm]

theorem nodup_owners_capture (filed : r.Filed) :
    ((capture r).rules.map OwnedRules.policy).Nodup := by
  have all : ((r.policies.map fun policy => (⟨policy.id, r.rulesOf policy.id⟩ : OwnedRules)).map
      OwnedRules.policy).Nodup := by
    rw [List.map_map]
    change (r.policies.map Policy.id).Nodup
    rw [map_id_policies filed]
    exact r.current.nodup_keys
  exact all.sublist (List.filter_sublist.map OwnedRules.policy)

/-! ## Restoring what was captured -/

theorem restore_capture (kept : Kept r) (devices : Switches) :
    (capture r).restore { Register.empty with switches := devices } =
      { Register.empty with current := r.current, owned := r.owned, switches := devices } := by
  let start : Register := { Register.empty with current := r.current, switches := devices }
  have policies : (capture r).policies.foldl Register.restore
      { Register.empty with switches := devices } = start := by
    have entered := foldl_restore_eq r.policies Keyed.empty devices
    rw [foldl_insert_policies kept.filed] at entered
    exact entered
  have owners : ∀ owned ∈ (capture r).rules, start.current.contains owned.policy = true := by
    intro owned h
    obtain ⟨-, policy, mem, rfl⟩ := mem_rules_capture.1 h
    exact kept.filed.contains_of_mem_policies mem
  obtain ⟨frame, listed, members, others⟩ :=
    foldl_recordAll_spec owners (nodup_owners_capture kept.filed) Register.listed_empty
  rw [restore, policies]
  have rules : ∀ id, ((capture r).rules.foldl recordAll start).rulesOf id = r.rulesOf id := by
    intro id
    by_cases owner : id ∈ (capture r).rules.map OwnedRules.policy
    · obtain ⟨owned, h, rfl⟩ := List.mem_map.1 owner
      obtain ⟨-, policy, -, rfl⟩ := mem_rules_capture.1 h
      exact members _ h
    · -- who is not listed in the snapshot owned nothing
      refine (others id owner).trans (Classical.byContradiction fun owns => owner ?_)
      have owns : r.rulesOf id ≠ [] := fun nothing => owns nothing.symm
      obtain ⟨policy, found⟩ := Keyed.contains_eq_true_iff.1 (kept.owner_current id owns)
      obtain rfl := kept.filed.current id policy found
      exact List.mem_map.2 ⟨_, mem_rules_capture.2
        ⟨owns, policy, kept.filed.mem_policies_iff.2 found, rfl⟩, rfl⟩
  have owned := Register.owned_eq_of_rulesOf listed kept.listed rules
  rw [frame, owned]

theorem capture_congr {r' : Register} (current : r'.current = r.current)
    (owned : r'.owned = r.owned) : capture r' = capture r := by
  simp only [capture, Register.policies, Register.rulesOf, current, owned]

/--
After any run of operations, a snapshot that is restored into an empty register gives the same
policies and, for every id, the same rules in the same order, so that no rule is lost; nothing is
pending, nothing was noted, the devices are as they were, and a new snapshot is the same.
-/
theorem restore_capture_run (ops : List Register.Operation) (devices : Switches) :
    let r := Register.empty.run ops
    let restored := (capture r).restore { Register.empty with switches := devices }
    restored.current = r.current ∧ (∀ id, restored.rulesOf id = r.rulesOf id) ∧
      restored.owned = r.owned ∧ restored.pending = Keyed.empty ∧ restored.version = 0 ∧
      restored.log = [] ∧ restored.switches = devices ∧ capture restored = capture r := by
  intro r restored
  have whole : restored = { Register.empty with
      current := r.current, owned := r.owned, switches := devices } :=
    restore_capture (Register.kept_run Register.kept_empty ops) devices
  rw [whole]
  exact ⟨rfl, fun _ => rfl, rfl, rfl, rfl, rfl, rfl, capture_congr rfl rfl⟩

end Snapshot

end PolicyRouting
