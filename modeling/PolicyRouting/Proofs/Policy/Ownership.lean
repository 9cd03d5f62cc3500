import PolicyRouting.Proofs.Policy.Numbering
import PolicyRouting.Proofs.Policy.Operations

/-!
# Who owns the rules

Every rule in the devices is owned by a current policy, and only current
policies own rules, after any run over devices that started empty.  A policy
that never had a rule recorded by hand owns no rule twice.
-/

namespace PolicyRouting.Register

variable {r r' : Register}

theorem owner_current_of_change {op : Operation} (h : Change r op r')
    (current : ∀ id, r.rulesOf id ≠ [] → r.current.contains id = true) (id : PolicyId)
    (owns : r'.rulesOf id ≠ []) : r'.current.contains id = true := by
  cases h with
  | idle _ _ policies owned _ =>
      rw [rulesOf_congr owned] at owns
      rw [policies]
      exact current id owns
  | enter _ _ entered policy policies owned _ =>
      rw [rulesOf_congr owned] at owns
      rw [policies, Keyed.contains_insert]
      exact .inr (current id owns)
  | leave left _ _ policies owned _ =>
      rw [rulesOf_of_erase owned] at owns
      split at owns
      · exact absurd rfl owns
      · rw [policies, Keyed.contains_erase]
        exact ⟨‹_›, current id owns⟩
  | record owner rule _ isCurrent policies owned _
  | install owner rule _ isCurrent policies owned _ =>
      rw [policies]
      rw [rulesOf_of_insert owned] at owns
      split at owns
      · rename_i same
        exact same ▸ isCurrent
      · exact current id owns

/-- Owners are current policies, and no rule is in the devices without an owner. -/
structure Accounted (r : Register) : Prop where
  owner_current : ∀ id, r.rulesOf id ≠ [] → r.current.contains id = true
  written_owned : ∀ ruleId, r.switches.contains ruleId = true →
    ∃ owner, ruleId ∈ (r.rulesOf owner).map Rule.id

theorem accounted_empty : Accounted empty where
  owner_current _ h := absurd rfl h
  written_owned _ h := absurd h (by simp [empty])

theorem Accounted.exists_current (acc : Accounted r) {ruleId : UInt64}
    (h : r.switches.contains ruleId = true) :
    ∃ owner, r.current.contains owner = true ∧ ruleId ∈ (r.rulesOf owner).map Rule.id := by
  obtain ⟨owner, hmem⟩ := acc.written_owned ruleId h
  have nonempty : r.rulesOf owner ≠ [] := by
    intro hnil
    simp [hnil] at hmem
  exact ⟨owner, acc.owner_current owner nonempty, hmem⟩

theorem Accounted.change {op : Operation} (acc : Accounted r) (h : Change r op r') :
    Accounted r' := by
  refine ⟨owner_current_of_change h acc.owner_current, fun ruleId hrule => ?_⟩
  cases h with
  | idle _ _ current owned switches =>
      rw [switches] at hrule
      simpa only [rulesOf_congr owned] using acc.written_owned ruleId hrule
  | enter _ _ id policy current owned switches =>
      rw [switches] at hrule
      simpa only [rulesOf_congr owned] using acc.written_owned ruleId hrule
  | leave id _ isCurrent current owned switches =>
      -- the rule stayed in the devices, so its owner is not the policy that left
      rw [switches, Switches.contains_withdraw] at hrule
      obtain ⟨owner, hmem⟩ := acc.written_owned ruleId hrule.2
      refine ⟨owner, ?_⟩
      rw [rulesOf_of_erase owned, if_neg]
      · exact hmem
      · rintro rfl
        exact hrule.1 hmem
  | record id rule _ isCurrent current owned switches =>
      rw [switches] at hrule
      obtain ⟨owner, hmem⟩ := acc.written_owned ruleId hrule
      refine ⟨owner, ?_⟩
      rw [rulesOf_of_insert owned]
      split
      · rename_i same
        subst same
        rw [List.map_append]
        exact List.mem_append_left _ hmem
      · exact hmem
  | install id rule _ isCurrent current owned switches =>
      -- the new rule may replace one of another owner, which keeps its record
      rw [switches, Switches.contains_apply] at hrule
      rcases hrule with hnew | hrule
      · refine ⟨id, ?_⟩
        rw [rulesOf_of_insert owned, if_pos rfl, mem_ownedWith_iff]
        exact .inl hnew.symm
      · obtain ⟨owner, hmem⟩ := acc.written_owned ruleId hrule
        refine ⟨owner, ?_⟩
        rw [rulesOf_of_insert owned]
        split
        · rename_i same
          subst same
          exact mem_ownedWith_iff.2 (.inr hmem)
        · exact hmem

theorem accounted_run (acc : Accounted r) (ops : List Operation) : Accounted (r.run ops) := by
  induction ops generalizing r with
  | nil => exact acc
  | cons op ops ih => exact ih (acc.change (change_perform r op))

def OwnsOnce (r : Register) : Prop := ∀ id, ((r.rulesOf id).map Rule.id).Nodup

theorem ownsOnce_empty : OwnsOnce empty := fun _ => List.nodup_nil

theorem OwnsOnce.change {op : Operation} (once : OwnsOnce r) (h : Change r op r')
    (noRecord : ∀ id rule, op ≠ .recordRule id rule) : OwnsOnce r' := by
  intro other
  cases h with
  | idle _ _ _ owned _ =>
      rw [rulesOf_congr owned]
      exact once other
  | enter _ _ _ _ _ owned _ =>
      rw [rulesOf_congr owned]
      exact once other
  | leave id _ _ _ owned _ =>
      rw [rulesOf_of_erase owned]
      split
      · exact List.nodup_nil
      · exact once other
  | record id rule _ _ _ _ _ => exact absurd rfl (noRecord id rule)
  | install id rule _ _ _ owned _ =>
      rw [rulesOf_of_insert owned]
      split
      · exact nodup_ownedWith rule (once id)
      · exact once other

theorem ownsOnce_run (once : OwnsOnce r) (ops : List Operation)
    (noRecord : ∀ id rule, .recordRule id rule ∉ ops) : OwnsOnce (r.run ops) := by
  induction ops generalizing r with
  | nil => exact once
  | cons op ops ih =>
      have hop : ∀ id rule, op ≠ .recordRule id rule := by
        rintro id rule rfl
        exact noRecord id rule List.mem_cons_self
      exact ih (once.change (change_perform r op) hop)
        fun id rule h => noRecord id rule (List.mem_cons_of_mem _ h)

theorem Accounted.rulesOf_created (acc : Accounted r) {build : PolicyId → Except Fault Policy}
    {policy : Policy} {free : PolicyId} (hfree : free ∉ r.idsInUse)
    (h : r.create build = .ok (policy, r')) : r'.rulesOf policy.id = [] := by
  obtain ⟨built, -, rfl, rfl⟩ := create_eq_ok h
  have unused := PolicyId.next_not_mem hfree
  refine Classical.byContradiction fun owns => unused ?_
  exact List.mem_append_left _ (Keyed.contains_iff.1 (acc.owner_current _ owns))

theorem Accounted.exists_other_of_remove (acc : Accounted r) {id : PolicyId} {count : Nat}
    (h : r.remove id = .ok (count, r')) {ruleId : UInt64}
    (hrule : r'.switches.contains ruleId = true) :
    ∃ owner, owner ≠ id ∧ r'.current.contains owner = true ∧
      ruleId ∈ (r'.rulesOf owner).map Rule.id := by
  have step : r.perform (.remove id) = r' := by simp only [perform, h, left]
  have acc' : Accounted r' := step ▸ acc.change (change_perform r (.remove id))
  obtain ⟨owner, isCurrent, hmem⟩ := acc'.exists_current hrule
  refine ⟨owner, ?_, isCurrent, hmem⟩
  rintro rfl
  obtain ⟨policy, -, -, rfl⟩ := remove_eq_ok h
  simp [note] at isCurrent

/--
After any run: only current policies own rules, so a policy that was just created owns none (there
has to be a number left for it); every rule in the devices has a current owner, after a removal one
that stayed; and without rules recorded by hand no policy owns a rule twice.
-/
theorem run_leaves_no_orphans (ops : List Operation) :
    let r := empty.run ops
    (∀ id, r.rulesOf id ≠ [] → r.current.contains id = true) ∧
    (∀ build policy r', (∃ free, free ∉ r.idsInUse) → r.create build = .ok (policy, r') →
      r'.rulesOf policy.id = []) ∧
    (∀ ruleId, r.switches.contains ruleId = true →
      ∃ owner, r.current.contains owner = true ∧ ruleId ∈ (r.rulesOf owner).map Rule.id) ∧
    (∀ id count r', r.remove id = .ok (count, r') → ∀ ruleId,
      r'.switches.contains ruleId = true →
        ∃ owner, owner ≠ id ∧ r'.current.contains owner = true ∧
          ruleId ∈ (r'.rulesOf owner).map Rule.id) ∧
    ((∀ id rule, .recordRule id rule ∉ ops) → ∀ id, ((r.rulesOf id).map Rule.id).Nodup) := by
  intro r
  have acc : Accounted r := accounted_run accounted_empty ops
  refine ⟨acc.owner_current, ?_, fun _ => acc.exists_current, ?_, ?_⟩
  · rintro build policy r' ⟨free, hfree⟩ h
    exact acc.rulesOf_created hfree h
  · intro id count r' h ruleId hrule
    exact acc.exists_other_of_remove h hrule
  · intro noRecord
    exact ownsOnce_run ownsOnce_empty ops noRecord

end PolicyRouting.Register
