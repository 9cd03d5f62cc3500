import PolicyRouting.Console.Replay
import PolicyRouting.Proofs.Policy.Installs
import PolicyRouting.Proofs.Routing.Runs

/-!
# What the records say about the devices

The id of a rule leaves out its treatment and its timeout.  A rule that is
written again under its id replaces the one in the device, but the policy that
owns the id keeps the rule that it recorded first.  So the records show the
oldest rule and the devices hold the newest one.  They agree throughout a run
exactly where every rule is written as it was recorded before, by whichever
policy.
-/

namespace PolicyRouting

namespace Register

variable {r r' : Register} {id : PolicyId} {ruleId : UInt64} {rule : Rule}

/-- A recorded rule that is in the devices is the rule that they hold. -/
def Faithful (r : Register) : Prop :=
  ∀ id, ∀ rule ∈ r.rulesOf id, ∀ held, r.switches.rules.get? rule.id = some held → held = rule

/-- What the operation writes or records by hand is as it was recorded or written before. -/
def Repeats (r : Register) : Operation → Prop
  | .installRule id rule => r.current.contains id = true →
      ∀ owner, ∀ recorded ∈ r.rulesOf owner, recorded.id = rule.id → recorded = rule
  | .recordRule id rule => r.current.contains id = true →
      ∀ held, r.switches.rules.get? rule.id = some held → held = rule
  | _ => True

theorem faithful_of_no_rules (r : Register) : Faithful { r with switches := .empty } := by
  intro id rule _ held h
  simp [Switches.empty] at h

/-! ## One step -/

theorem Faithful.change {op : Operation} (faithful : Faithful r) (h : Change r op r')
    (noRecord : ∀ id rule, op ≠ .recordRule id rule)
    (noInstall : ∀ id rule, op ≠ .installRule id rule) : Faithful r' := by
  intro id rule hrule held hheld
  cases h with
  | idle _ _ _ owned switches =>
      rw [rulesOf_congr owned] at hrule
      rw [switches] at hheld
      exact faithful id rule hrule held hheld
  | enter _ _ _ _ _ owned switches =>
      rw [rulesOf_congr owned] at hrule
      rw [switches] at hheld
      exact faithful id rule hrule held hheld
  | leave left _ _ _ owned switches =>
      rw [rulesOf_of_erase owned] at hrule
      rw [switches, Switches.get?_withdraw] at hheld
      split at hrule
      · exact absurd hrule List.not_mem_nil
      · split at hheld
        · contradiction
        · exact faithful id rule hrule held hheld
  | record recorder hand _ _ _ _ _ => exact absurd rfl (noRecord recorder hand)
  | install installer new _ _ _ _ _ => exact absurd rfl (noInstall installer new)

theorem Faithful.recordRule_iff (faithful : Faithful r) (id : PolicyId) (rule : Rule) :
    Faithful (r.perform (.recordRule id rule)) ↔ Repeats r (.recordRule id rule) := by
  cases current : r.current.contains id with
  | false =>
      have same : r.perform (.recordRule id rule) = r := by simp [perform, recordRule, current]
      rw [same]
      exact iff_of_true faithful fun h => by simp [current] at h
  | true =>
      have rules : ∀ owner, (r.perform (.recordRule id rule)).rulesOf owner =
          if id = owner then r.rulesOf id ++ [rule] else r.rulesOf owner := by
        intro owner
        refine rulesOf_of_insert ?_
        simp [perform, recordRule, current]
      have switches : (r.perform (.recordRule id rule)).switches = r.switches := by
        simp [perform, recordRule, current]
      constructor
      · intro after _ held hheld
        refine after id rule ?_ held ?_
        · simp [rules]
        · rw [switches]
          exact hheld
      · intro repeats owner recorded hrecorded held hheld
        rw [switches] at hheld
        rw [rules] at hrecorded
        split at hrecorded
        · rcases List.mem_append.1 hrecorded with old | new
          · exact faithful id recorded old held hheld
          · obtain rfl := List.mem_singleton.1 new
            exact repeats current held hheld
        · exact faithful owner recorded hrecorded held hheld

theorem Faithful.installRule_iff (faithful : Faithful r) (id : PolicyId) (rule : Rule) :
    Faithful (r.perform (.installRule id rule)) ↔ Repeats r (.installRule id rule) := by
  cases current : r.current.contains id with
  | false =>
      have same : r.perform (.installRule id rule) = r := by simp [perform, installRule, current]
      rw [same]
      exact iff_of_true faithful fun h => by simp [current] at h
  | true =>
      have written : r.perform (.installRule id rule) = { r with
          switches := r.switches.apply rule
          owned := r.owned.insert id (ownedWith (r.rulesOf id) rule) } := by
        rw [perform, installRule_of_current current]
      have rules : ∀ owner, (r.perform (.installRule id rule)).rulesOf owner =
          if id = owner then ownedWith (r.rulesOf id) rule else r.rulesOf owner := by
        intro owner
        rw [written]
        exact rulesOf_of_insert rfl
      have held : ∀ ruleId, (r.perform (.installRule id rule)).switches.rules.get? ruleId =
          if rule.id = ruleId then some rule else r.switches.rules.get? ruleId := by
        intro ruleId
        rw [written]
        exact r.switches.get?_apply rule ruleId
      constructor
      · -- whoever recorded a rule under the id still has it
        intro after _ owner recorded hrecorded same
        have kept : recorded ∈ (r.perform (.installRule id rule)).rulesOf owner := by
          rw [rules]
          split
          · rename_i h
            subst h
            exact mem_ownedWith.2 (.inl hrecorded)
          · exact hrecorded
        refine (after owner recorded kept rule ?_).symm
        rw [held, if_pos same.symm]
      · intro repeats owner recorded hrecorded found hfound
        have old_or_new : recorded ∈ r.rulesOf owner ∨ recorded = rule := by
          rw [rules] at hrecorded
          split at hrecorded
          · rename_i h
            subst h
            exact mem_of_mem_ownedWith hrecorded
          · exact .inl hrecorded
        rw [held] at hfound
        rcases old_or_new with old | rfl
        · split at hfound
          · rename_i same
            rw [← Option.some.inj hfound]
            exact (repeats current owner recorded old same.symm).symm
          · exact faithful owner recorded old found hfound
        · rw [if_pos rfl] at hfound
          exact (Option.some.inj hfound).symm

theorem Faithful.perform_iff (faithful : Faithful r) (op : Operation) :
    Faithful (r.perform op) ↔ Repeats r op := by
  cases op with
  | recordRule id rule => exact faithful.recordRule_iff id rule
  | installRule id rule => exact faithful.installRule_iff id rule
  | add policy | restore policy | create build | park policy | promote id | setState id state
  | remove id =>
      exact iff_of_true (faithful.change (change_perform r _) (by simp) (by simp)) trivial

/-! ## A run -/

theorem Faithful.throughout_iff (faithful : Faithful r) (ops : List Operation) :
    (∀ n, Faithful (r.run (ops.take n))) ↔
      ∀ n op, ops[n]? = some op → Repeats (r.run (ops.take n)) op := by
  -- nothing else has to be known of the register
  have free : ∀ (r : Register) (op : Operation), True → True := fun _ _ h => h
  exact Register.throughout_iff free (fun _ op _ faithful => faithful.perform_iff op) trivial
    faithful ops

def recorded? (r : Register) (id : PolicyId) (ruleId : UInt64) : Option Rule :=
  (r.rulesOf id).find? fun rule => rule.id = ruleId

theorem find?_ownedWith (rules : List Rule) (rule : Rule) (ruleId : UInt64) :
    (ownedWith rules rule).find? (fun owned => owned.id = ruleId) =
      (rules.find? fun owned => owned.id = ruleId).or
        (if rule.id = ruleId then some rule else none) := by
  unfold ownedWith
  split
  · rename_i present
    obtain ⟨owned, howned, same⟩ := List.any_eq_true.1 present
    by_cases h : rule.id = ruleId
    · have found : (rules.find? fun owned => owned.id = ruleId).isSome = true :=
        List.find?_isSome.2 ⟨owned, howned, by simpa [h] using same⟩
      obtain ⟨first, hfirst⟩ := Option.isSome_iff_exists.1 found
      rw [hfirst]
      rfl
    · simp [h]
  · rw [List.find?_append]
    by_cases h : rule.id = ruleId <;> simp [h]

theorem recorded?_installAll (current : r.current.contains id = true) (rules : List Rule)
    (ruleId : UInt64) :
    (r.installAll (rules.map (⟨id, ·⟩))).recorded? id ruleId =
      (r.recorded? id ruleId).or (rules.find? fun rule => rule.id = ruleId) := by
  induction rules generalizing r with
  | nil => simp
  | cons rule rules ih =>
      have stays : (r.installRule id rule).2.current.contains id = true := by
        rw [installRule_current]
        exact current
      rw [List.map_cons, installAll_cons, ih stays, installRule_of_current current]
      simp only [recorded?]
      rw [rulesOf_of_insert rfl, if_pos rfl, find?_ownedWith, Option.or_assoc]
      by_cases h : rule.id = ruleId <;> simp [h]

theorem held_installAll (current : r.current.contains id = true) (rules : List Rule)
    (ruleId : UInt64) :
    (r.installAll (rules.map (⟨id, ·⟩))).switches.rules.get? ruleId =
      (rules.reverse.find? fun rule => rule.id = ruleId).or (r.switches.rules.get? ruleId) := by
  have active : ∀ install ∈ rules.map (Install.mk id),
      r.current.contains install.policy = true := by
    intro install h
    obtain ⟨rule, -, rfl⟩ := List.mem_map.1 h
    exact current
  rw [get?_installAll active, lastInstall?, ← List.map_reverse, List.find?_map, Option.map_map]
  simp [Function.comp_def]

theorem mem_recorded_installRule_iff (h : (r.installRule id rule).1 = true) :
    rule ∈ (r.installRule id rule).2.rulesOf id ↔
      rule ∈ r.rulesOf id ∨ rule.id ∉ (r.rulesOf id).map Rule.id := by
  have current : r.current.contains id = true := by
    unfold installRule at h
    split at h
    · assumption
    · contradiction
  rw [installRule_of_current current, rulesOf_of_insert rfl, if_pos rfl, mem_ownedWith]
  simp only [true_and]

/-! ## What is shown -/

theorem mem_reached_iff {shown : OwnedRules} (h : shown ∈ Replay.reached r) (rule : Rule) :
    rule ∈ shown.rules ↔
      rule ∈ r.rulesOf shown.policy ∧ r.switches.contains rule.id = true := by
  obtain ⟨listed, -⟩ := List.mem_filter.1 h
  obtain ⟨⟨owner, rules⟩, hentry, rfl⟩ := List.mem_map.1 listed
  have owned : r.rulesOf owner = rules := by
    rw [rulesOf, Keyed.getD, Keyed.mem_entries_iff.1 hentry]
    rfl
  simp [owned]

theorem exists_reached (hrule : rule ∈ r.rulesOf id)
    (present : r.switches.contains rule.id = true) :
    ∃ shown ∈ Replay.reached r, rule ∈ shown.rules := by
  cases howned : r.owned.get? id with
  | none => simp [rulesOf, Keyed.getD, howned] at hrule
  | some rules =>
      have owned : r.rulesOf id = rules := by
        rw [rulesOf, Keyed.getD, howned]
        rfl
      rw [owned] at hrule
      have shown : rule ∈ rules.filter fun rule => r.switches.contains rule.id :=
        List.mem_filter.2 ⟨hrule, present⟩
      refine ⟨⟨id, rules.filter fun rule => r.switches.contains rule.id⟩, ?_, shown⟩
      refine List.mem_filter.2
        ⟨List.mem_map.2 ⟨(id, rules), Keyed.mem_entries_iff.2 howned, rfl⟩, ?_⟩
      simp [List.ne_nil_of_mem shown]

/-- A report of a replay shows the rules of the devices exactly where the records are faithful. -/
theorem faithful_iff_reached (r : Register) :
    Faithful r ↔ ∀ shown ∈ Replay.reached r, ∀ rule ∈ shown.rules,
      r.switches.rules.get? rule.id = some rule := by
  constructor
  · intro faithful shown hshown rule hrule
    obtain ⟨owned, present⟩ := (mem_reached_iff hshown rule).1 hrule
    obtain ⟨held, hheld⟩ := Keyed.contains_eq_true_iff.1 present
    rw [hheld, faithful _ rule owned held hheld]
  · intro all id rule hrule held hheld
    have present : r.switches.contains rule.id = true :=
      Keyed.contains_eq_true_iff.2 ⟨held, hheld⟩
    obtain ⟨shown, hshown, hmem⟩ := exists_reached hrule present
    exact Option.some.inj (hheld.symm.trans (all shown hshown rule hmem))

/--
Over devices that start without rules, whatever was recorded before, the report shows throughout a
run what the devices hold exactly where each step repeats what was recorded.  For one step: a rule
that was installed is on record unless another one is there under its id.  For many: the policy
shows the first rule that was installed under an id and the devices hold the last one.
-/
theorem records_match_devices_iff (r : Register) (ops : List Operation) :
    let before := fun n => ({ r with switches := .empty } : Register).run (ops.take n)
    ((∀ n, ∀ shown ∈ Replay.reached (before n), ∀ rule ∈ shown.rules,
        (before n).switches.rules.get? rule.id = some rule) ↔
      ∀ n op, ops[n]? = some op → (before n).Repeats op) ∧
    (∀ n id rule, ((before n).installRule id rule).1 = true →
      (rule ∈ ((before n).installRule id rule).2.rulesOf id ↔
        rule ∈ (before n).rulesOf id ∨ rule.id ∉ ((before n).rulesOf id).map Rule.id)) ∧
    (∀ n id, (before n).current.contains id = true → ∀ (rules : List Rule) (ruleId : UInt64),
      let after := (before n).installAll (rules.map (⟨id, ·⟩))
      after.recorded? id ruleId =
        ((before n).recorded? id ruleId).or (rules.find? fun rule => rule.id = ruleId) ∧
      after.switches.rules.get? ruleId =
        (rules.reverse.find? fun rule => rule.id = ruleId).or
          ((before n).switches.rules.get? ruleId)) := by
  intro before
  refine ⟨?_, fun n id rule h => mem_recorded_installRule_iff h, fun n id current rules ruleId =>
    ⟨recorded?_installAll current rules ruleId, held_installAll current rules ruleId⟩⟩
  simp only [← faithful_iff_reached]
  exact (faithful_of_no_rules r).throughout_iff ops

end Register

def movedHost : Host := { eastHost with location := ⟨"c", 3⟩ }

def movingRun : List Engine.Operation :=
  lineLinks ++ [
    .create ((eastboundRequest "50").build 1 (.ofEpochNanos 0)),
    .process ⟨"a", 1⟩ eastboundPacket,
    .addHost movedHost,
    .process ⟨"a", 1⟩ eastboundPacket]

/-- The record still shows the old port where the device forwards to the new one. -/
theorem record_outdated_after_movingRun :
    let r := ((Engine.fresh {} lineRegions lineDirectory scattered).performAll
      movingRun).scene.register
    ∃ rule ∈ r.rulesOf 0, ∃ held, r.switches.rules.get? rule.id = some held ∧
      rule.treatment.outputPort? = some 2 ∧ held.treatment.outputPort? = some 3 := by
  intro r
  have outdated : (r.rulesOf 0).any (fun rule =>
      (r.switches.rules.get? rule.id).any fun held =>
        rule.treatment.outputPort? = some 2 && held.treatment.outputPort? = some 3) = true := by
    decide +kernel
  obtain ⟨rule, hrule, differs⟩ := List.any_eq_true.1 outdated
  obtain ⟨held, hheld, ports⟩ := (Option.any_eq_true _ _).1 differs
  obtain ⟨old, new⟩ : rule.treatment.outputPort? = some 2 ∧
      held.treatment.outputPort? = some 3 := by
    simpa using ports
  exact ⟨rule, hrule, held, hheld, old, new⟩

end PolicyRouting
