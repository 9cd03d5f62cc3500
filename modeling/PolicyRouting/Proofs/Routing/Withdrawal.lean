import PolicyRouting.Proofs.Routing.Runs

/-!
# What a removal withdraws

A removal withdraws every rule that the policy owns, also a rule that another
policy owns too.  As long as no removed policy shares a rule, every owned rule
is in the devices, and the first removal of a policy that does share one takes
it from under its other owner.  Two policies share a rule when they route the
same packet with the same priority.
-/

namespace PolicyRouting

namespace Register

/-- Every rule of a current policy is in the devices. -/
def Backed (r : Register) : Prop :=
  ∀ id, r.current.contains id = true → ∀ rule ∈ r.rulesOf id, r.switches.contains rule.id = true

/-- No other policy owns a rule with the id of a rule of this one. -/
def Unshared (r : Register) (id : PolicyId) : Prop :=
  ∀ other, other ≠ id → ∀ rule ∈ r.rulesOf other, rule.id ∉ (r.rulesOf id).map Rule.id

variable {r r' : Register} {op : Operation}

theorem backed_empty : Backed empty := fun _ _ _ h => absurd h List.not_mem_nil

theorem Backed.change (backed : Backed r) (acc : Accounted r) (h : Change r op r')
    (noRemove : ∀ id, op ≠ .remove id) (noRecord : ∀ id rule, op ≠ .recordRule id rule) :
    Backed r' := by
  have owned : ∀ id, ∀ rule ∈ r.rulesOf id, r.switches.contains rule.id = true :=
    fun id rule hrule => backed id (acc.owner_current id (List.ne_nil_of_mem hrule)) rule hrule
  intro id _ rule hrule
  cases h with
  | idle _ _ _ same switches =>
      rw [rulesOf_congr same] at hrule
      rw [switches]
      exact owned id rule hrule
  | enter _ _ _ _ _ same switches =>
      rw [rulesOf_congr same] at hrule
      rw [switches]
      exact owned id rule hrule
  | leave left _ _ _ _ _ => exact absurd rfl (noRemove left)
  | record recorder hand _ _ _ _ _ => exact absurd rfl (noRecord recorder hand)
  | install installer new _ _ _ inserted switches =>
      rw [switches, Switches.contains_apply]
      rw [rulesOf_of_insert inserted] at hrule
      split at hrule
      · rcases mem_of_mem_ownedWith hrule with old | rfl
        · exact .inr (owned installer rule old)
        · exact .inl rfl
      · exact .inr (owned id rule hrule)

theorem Backed.run (backed : Backed r) (acc : Accounted r) (ops : List Operation)
    (noRemove : ∀ id, .remove id ∉ ops) (noRecord : ∀ id rule, .recordRule id rule ∉ ops) :
    Backed (r.run ops) := by
  induction ops generalizing r with
  | nil => exact backed
  | cons op ops ih =>
      have step := change_perform r op
      have stays : ∀ id, op ≠ .remove id := fun id h => noRemove id (h ▸ List.mem_cons_self)
      have installs : ∀ id rule, op ≠ .recordRule id rule :=
        fun id rule h => noRecord id rule (h ▸ List.mem_cons_self)
      exact ih (backed.change acc step stays installs) (acc.change step)
        (fun id h => noRemove id (List.mem_cons_of_mem _ h))
        (fun id rule h => noRecord id rule (List.mem_cons_of_mem _ h))

theorem backed_remove_iff (backed : Backed r) (acc : Accounted r) (id : PolicyId) :
    Backed (r.perform (.remove id)) ↔ Unshared r id := by
  rcases r.perform_remove id with ⟨gone, same⟩ | ⟨policy, -, after⟩
  · have absent : r.rulesOf id = [] := by
      refine Classical.byContradiction fun owns => ?_
      rw [acc.owner_current id owns] at gone
      contradiction
    rw [same]
    refine iff_of_true backed fun other _ rule _ => ?_
    simp [absent]
  · have current : ∀ other, (r.perform (.remove id)).current.contains other = true ↔
        id ≠ other ∧ r.current.contains other = true := by
      intro other
      rw [after]
      exact Keyed.contains_erase _ _ _
    have rules : ∀ other, other ≠ id →
        (r.perform (.remove id)).rulesOf other = r.rulesOf other := by
      intro other hother
      have erased : (r.perform (.remove id)).owned = r.owned.erase id := by
        rw [after]
        rfl
      rw [rulesOf_of_erase erased, if_neg (Ne.symm hother)]
    have held : ∀ ruleId, (r.perform (.remove id)).switches.contains ruleId = true ↔
        ruleId ∉ (r.rulesOf id).map Rule.id ∧ r.switches.contains ruleId = true := by
      intro ruleId
      rw [after]
      exact Switches.contains_withdraw _ _ _
    constructor
    · intro backed' other hother rule hrule
      have present := acc.owner_current other (List.ne_nil_of_mem hrule)
      rw [← rules other hother] at hrule
      have kept := backed' other ((current other).2 ⟨Ne.symm hother, present⟩) rule hrule
      exact ((held rule.id).1 kept).1
    · intro unshared other hcurrent rule hrule
      obtain ⟨hother, present⟩ := (current other).1 hcurrent
      rw [rules other (Ne.symm hother)] at hrule
      exact (held rule.id).2 ⟨unshared other (Ne.symm hother) rule hrule,
        backed other present rule hrule⟩

end Register

namespace Engine

variable {e : Engine}

theorem backed_perform (sound : Sound e.scene.register) (backed : e.scene.register.Backed)
    {op : Operation} (noRemove : ∀ id, op ≠ .remove id) :
    (e.perform op).scene.register.Backed := by
  rw [perform_register sound.filed op]
  refine backed.run sound.accounted _ (fun id h => ?_) fun id rule h =>
    registerOps_ne_recordRule h id rule rfl
  cases op with
  | remove left => exact noRemove left rfl
  | create build | transition id state | addLink link | removeLink link | addHost host
  | removeHost id => simp [registerOps] at h
  | process receiver data =>
      obtain ⟨write, -, hwrite⟩ := List.mem_map.1 h
      simp [Register.Install.operation] at hwrite

theorem backed_perform_iff (sound : Sound e.scene.register) (backed : e.scene.register.Backed)
    (op : Operation) :
    (e.perform op).scene.register.Backed ↔
      ∀ id, op = .remove id → e.scene.register.Unshared id := by
  cases op with
  | remove id =>
      have step := Register.backed_remove_iff backed sound.accounted id
      constructor
      · rintro after other h
        obtain rfl : id = other := by simpa using h
        exact step.1 after
      · exact fun h => step.2 (h id rfl)
  | create build | transition id state | addLink link | removeLink link | addHost host
  | removeHost id | process receiver data =>
      exact iff_of_true (backed_perform sound backed (by simp)) (by simp)

theorem backed_throughout_iff (sound : Sound e.scene.register) (backed : e.scene.register.Backed)
    (ops : List Operation) :
    (∀ n, (e.performAll (ops.take n)).scene.register.Backed) ↔
      ∀ n id, ops[n]? = some (.remove id) →
        (e.performAll (ops.take n)).scene.register.Unshared id := by
  have throughout := Register.throughout_iff
    (fun (e : Engine) op (sound : Sound e.scene.register) => sound.perform op)
    (fun e op sound (backed : e.scene.register.Backed) => backed_perform_iff sound backed op)
    sound backed ops
  refine throughout.trans ⟨fun fits n id h => fits n _ h id rfl, ?_⟩
  rintro unshared n _ h id rfl
  exact unshared n id h

/--
From an empty engine, every rule of a current policy is in the devices throughout a run exactly
where no removal of the run meets a policy that shares a rule with another one.
-/
theorem rules_stay_in_devices_iff (settings : Settings) (regions : Regions)
    (directory : Directory) (chance : Nat → Nat) (ops : List Operation) :
    let before := fun n => (fresh settings regions directory chance).performAll (ops.take n)
    (∀ n, (before n).scene.register.Backed) ↔
      ∀ n id, ops[n]? = some (.remove id) → (before n).scene.register.Unshared id :=
  backed_throughout_iff (sound_fresh settings regions directory chance) Register.backed_empty ops

def sharedRemoval : List Operation :=
  lineLinks ++ [
    .create ((eastboundRequest "50").build 1 (.ofEpochNanos 0)),
    .create ((eastboundRequest "50").build 2 (.ofEpochNanos 0)),
    .process ⟨"a", 1⟩ eastboundPacket,
    .remove 0]

theorem not_backed_after_sharedRemoval :
    ¬ ((fresh {} lineRegions lineDirectory scattered).performAll
      sharedRemoval).scene.register.Backed := by
  intro backed
  let r := ((fresh {} lineRegions lineDirectory scattered).performAll sharedRemoval).scene.register
  have current : r.current.contains 1 = true := by decide +kernel
  have missing : (r.rulesOf 1).any (fun rule => !r.switches.contains rule.id) = true := by
    decide +kernel
  obtain ⟨rule, hrule, absent⟩ := List.any_eq_true.1 missing
  have held : r.switches.contains rule.id = true := backed 1 current rule hrule
  rw [held] at absent
  contradiction

end Engine

end PolicyRouting
