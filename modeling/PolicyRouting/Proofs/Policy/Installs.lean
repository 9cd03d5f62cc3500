import PolicyRouting.Proofs.Policy.Operations

/-!
# Installing many rules

A list of installs for current policies leaves the policies alone.  Under each
id the devices then hold the rule that was written last, and a policy owns what
it owned and the rules that were installed for it.  Installing the whole list
again changes nothing but the count of writes: the same rules are last, and
every one of them is owned already.
-/

namespace PolicyRouting.Register

structure Install where
  policy : PolicyId
  rule : Rule
  deriving DecidableEq, Repr

def Install.operation (install : Install) : Operation :=
  .installRule install.policy install.rule

def installAll (r : Register) (installs : List Install) : Register :=
  r.run (installs.map Install.operation)

def lastInstall? (installs : List Install) (id : UInt64) : Option Install :=
  installs.reverse.find? fun install => install.rule.id = id

@[simp] theorem installAll_nil (r : Register) : r.installAll [] = r := rfl

@[simp] theorem installAll_cons (r : Register) (install : Install) (installs : List Install) :
    r.installAll (install :: installs) =
      (r.installRule install.policy install.rule).2.installAll installs := rfl

theorem installAll_append (r : Register) (installs more : List Install) :
    r.installAll (installs ++ more) = (r.installAll installs).installAll more := by
  rw [installAll, List.map_append, run_append]
  rfl

theorem lastInstall?_cons (install : Install) (installs : List Install) (id : UInt64) :
    lastInstall? (install :: installs) id =
      (lastInstall? installs id).or (if install.rule.id = id then some install else none) := by
  rw [lastInstall?, List.reverse_cons, List.find?_append]
  by_cases h : install.rule.id = id <;> simp [h, lastInstall?]

theorem mem_of_lastInstall? {installs : List Install} {id : UInt64} {install : Install}
    (h : lastInstall? installs id = some install) : install ∈ installs ∧ install.rule.id = id := by
  refine ⟨List.mem_reverse.1 (List.mem_of_find?_eq_some h), ?_⟩
  simpa using List.find?_some h

theorem exists_lastInstall? {installs : List Install} {install : Install}
    (h : install ∈ installs) : ∃ last, lastInstall? installs install.rule.id = some last := by
  refine Option.isSome_iff_exists.1 (List.find?_isSome.2 ⟨install, ?_, ?_⟩)
  · exact List.mem_reverse.2 h
  · exact decide_eq_true rfl

theorem lastInstall?_eq_none {installs : List Install} {id : UInt64}
    (h : ∀ install ∈ installs, install.rule.id ≠ id) : lastInstall? installs id = none := by
  refine List.find?_eq_none.2 fun install hmem => ?_
  simpa using h install (List.mem_reverse.1 hmem)

theorem lastInstall?_of_unique {installs : List Install} {install : Install}
    (h : install ∈ installs)
    (unique : ∀ other ∈ installs, other.rule.id = install.rule.id → other = install) :
    lastInstall? installs install.rule.id = some install := by
  obtain ⟨last, hlast⟩ := exists_lastInstall? h
  obtain ⟨hmem, hid⟩ := mem_of_lastInstall? hlast
  rw [hlast, unique last hmem hid]

section Frame

variable (r : Register) (id : PolicyId) (rule : Rule)

@[simp] theorem installRule_current : (r.installRule id rule).2.current = r.current := by
  unfold installRule
  split <;> rfl

@[simp] theorem installRule_pending : (r.installRule id rule).2.pending = r.pending := by
  unfold installRule
  split <;> rfl

@[simp] theorem installRule_log : (r.installRule id rule).2.log = r.log := by
  unfold installRule
  split <;> rfl

@[simp] theorem installRule_version : (r.installRule id rule).2.version = r.version := by
  unfold installRule
  split <;> rfl

end Frame

variable {r : Register} {installs : List Install}

theorem installAll_frame (r : Register) (installs : List Install) :
    (r.installAll installs).current = r.current ∧
      (r.installAll installs).pending = r.pending ∧ (r.installAll installs).log = r.log ∧
      (r.installAll installs).version = r.version := by
  induction installs generalizing r with
  | nil => exact ⟨rfl, rfl, rfl, rfl⟩
  | cons install installs ih =>
      obtain ⟨current, pending, log, version⟩ := ih (r.installRule install.policy install.rule).2
      rw [installAll_cons]
      exact ⟨by rw [current, installRule_current], by rw [pending, installRule_pending],
        by rw [log, installRule_log], by rw [version, installRule_version]⟩

@[simp] theorem installAll_current : (r.installAll installs).current = r.current :=
  (installAll_frame r installs).1

/-! ## What is written -/

theorem installRule_of_current {id : PolicyId} (h : r.current.contains id = true) (rule : Rule) :
    r.installRule id rule =
      (true, { r with
        switches := r.switches.apply rule
        owned := r.owned.insert id (ownedWith (r.rulesOf id) rule) }) := by
  rw [installRule, if_pos h]
  rfl

theorem installRule_of_not_current {id : PolicyId} (h : r.current.contains id = false)
    (rule : Rule) : r.installRule id rule = (false, r) := by
  rw [installRule, if_neg (Bool.eq_false_iff.1 h)]

theorem installAll_of_not_current {id : PolicyId} (h : r.current.contains id = false)
    (rules : List Rule) : r.installAll (rules.map (⟨id, ·⟩)) = r := by
  induction rules with
  | nil => rfl
  | cons rule rules ih => rw [List.map_cons, installAll_cons, installRule_of_not_current h, ih]

theorem current_of_rest {install : Install}
    (active : ∀ other ∈ install :: installs, r.current.contains other.policy = true) :
    ∀ other ∈ installs,
      (r.installRule install.policy install.rule).2.current.contains other.policy = true := by
  intro other hother
  rw [installRule_current]
  exact active other (List.mem_cons_of_mem _ hother)

theorem applied_installAll
    (active : ∀ install ∈ installs, r.current.contains install.policy = true) :
    (r.installAll installs).switches.applied = r.switches.applied + installs.length := by
  induction installs generalizing r with
  | nil => rfl
  | cons install installs ih =>
      have first := installRule_of_current (active install List.mem_cons_self) install.rule
      rw [installAll_cons, ih (current_of_rest active), first, List.length_cons]
      simp only [Switches.apply]
      omega

theorem get?_installAll (active : ∀ install ∈ installs, r.current.contains install.policy = true)
    (id : UInt64) :
    (r.installAll installs).switches.rules.get? id =
      ((lastInstall? installs id).map (·.rule)).or (r.switches.rules.get? id) := by
  induction installs generalizing r with
  | nil => simp [lastInstall?]
  | cons install installs ih =>
      have first := active install List.mem_cons_self
      have others := current_of_rest active
      rw [installAll_cons, ih others, installRule_of_current first]
      simp only [Switches.get?_apply, lastInstall?_cons]
      cases lastInstall? installs id with
      | some last => rfl
      | none =>
          by_cases h : install.rule.id = id
          · simp [h]
          · simp [h]

theorem contains_installAll_iff
    (active : ∀ install ∈ installs, r.current.contains install.policy = true) {ruleId : UInt64} :
    (r.installAll installs).switches.contains ruleId = true ↔
      r.switches.contains ruleId = true ∨ ∃ install ∈ installs, install.rule.id = ruleId := by
  rw [Switches.contains, Keyed.contains, get?_installAll active, Option.isSome_or,
    Bool.or_eq_true, or_comm, Option.isSome_map]
  refine or_congr_right ⟨fun found => ?_, ?_⟩
  · obtain ⟨last, hlast⟩ := Option.isSome_iff_exists.1 found
    exact ⟨last, mem_of_lastInstall? hlast⟩
  · rintro ⟨install, hmem, rfl⟩
    exact Option.isSome_iff_exists.2 (exists_lastInstall? hmem)

/-- What a policy owned comes first, then come rules that were installed for it. -/
theorem exists_rulesOf_installAll (r : Register) (installs : List Install) (id : PolicyId) :
    ∃ more, (r.installAll installs).rulesOf id = r.rulesOf id ++ more ∧
      ∀ rule ∈ more, (⟨id, rule⟩ : Install) ∈ installs := by
  induction installs generalizing r with
  | nil => exact ⟨[], by simp, by simp⟩
  | cons install installs ih =>
      obtain ⟨more, hmore, installed⟩ := ih (r.installRule install.policy install.rule).2
      have tail : ∀ rule ∈ more, (⟨id, rule⟩ : Install) ∈ install :: installs :=
        fun rule h => List.mem_cons_of_mem _ (installed rule h)
      rw [installAll_cons, hmore]
      cases active : r.current.contains install.policy with
      | false =>
          refine ⟨more, ?_, tail⟩
          rw [installRule_of_not_current active]
      | true =>
          rw [installRule_of_current active, rulesOf_of_insert rfl]
          by_cases same : install.policy = id
          · subst same
            rw [if_pos rfl, ownedWith]
            split
            · exact ⟨more, rfl, tail⟩
            · refine ⟨install.rule :: more, by simp, fun rule h => ?_⟩
              rcases List.mem_cons.1 h with rfl | h
              · exact List.mem_cons_self
              · exact tail rule h
          · rw [if_neg same]
            exact ⟨more, rfl, tail⟩

theorem mem_rulesOf_installAll_iff
    (active : ∀ install ∈ installs, r.current.contains install.policy = true)
    {id : PolicyId} {ruleId : UInt64} :
    ruleId ∈ ((r.installAll installs).rulesOf id).map Rule.id ↔
      ruleId ∈ (r.rulesOf id).map Rule.id ∨
        ∃ install ∈ installs, install.policy = id ∧ install.rule.id = ruleId := by
  induction installs generalizing r with
  | nil => simp
  | cons install installs ih =>
      have first := active install List.mem_cons_self
      have others := current_of_rest active
      rw [installAll_cons, ih others, installRule_of_current first, rulesOf_of_insert rfl]
      simp only [List.mem_cons, exists_eq_or_imp]
      by_cases same : install.policy = id
      · subst same
        rw [if_pos rfl, mem_ownedWith_iff, eq_comm, or_assoc, or_left_comm]
        simp only [true_and]
      · rw [if_neg same]
        simp only [same, false_and, false_or]

/-! ## Written again -/

def uncounted (r : Register) : Register :=
  { r with switches := { r.switches with applied := 0 } }

/-- A rule for a policy that is not current is refused. -/
theorem installAll_filter (r : Register) (installs : List Install) :
    r.installAll (installs.filter fun install => r.current.contains install.policy) =
      r.installAll installs := by
  induction installs generalizing r with
  | nil => rfl
  | cons install installs ih =>
      have rest := ih (r.installRule install.policy install.rule).2
      rw [installRule_current] at rest
      cases current : r.current.contains install.policy with
      | false =>
          rw [List.filter_cons_of_neg (by simp [current]), installAll_cons, ← rest,
            installRule_of_not_current current]
      | true =>
          rw [List.filter_cons_of_pos (by simp [current]), installAll_cons, installAll_cons, rest]

theorem ownedWith_eq_self {rules : List Rule} {rule : Rule} (h : rule.id ∈ rules.map Rule.id) :
    ownedWith rules rule = rules := by
  obtain ⟨same, hsame, hid⟩ := List.mem_map.1 h
  exact if_pos (List.any_eq_true.2 ⟨same, hsame, decide_eq_true hid⟩)

theorem owned_installRule {id : PolicyId} {rule : Rule}
    (recorded : r.current.contains id = true → rule.id ∈ (r.rulesOf id).map Rule.id) :
    (r.installRule id rule).2.owned = r.owned := by
  cases current : r.current.contains id with
  | false => rw [installRule_of_not_current current]
  | true =>
      have owns := recorded current
      rw [installRule_of_current current, ownedWith_eq_self owns]
      cases howned : r.owned.get? id with
      | none => simp [rulesOf, Keyed.getD, howned] at owns
      | some rules =>
          have own : r.rulesOf id = rules := by
            rw [rulesOf, Keyed.getD, howned]
            rfl
          rw [own]
          exact Keyed.insert_eq_self howned

theorem owned_installAll
    (recorded : ∀ install ∈ installs, r.current.contains install.policy = true →
      install.rule.id ∈ (r.rulesOf install.policy).map Rule.id) :
    (r.installAll installs).owned = r.owned := by
  induction installs generalizing r with
  | nil => rfl
  | cons install installs ih =>
      have first := owned_installRule (recorded install List.mem_cons_self)
      rw [installAll_cons, ih, first]
      intro other hother active
      rw [rulesOf_congr first]
      rw [installRule_current] at active
      exact recorded other (List.mem_cons_of_mem _ hother) active

@[simp] theorem removed_installAll (r : Register) (installs : List Install) :
    (r.installAll installs).switches.removed = r.switches.removed := by
  induction installs generalizing r with
  | nil => rfl
  | cons install installs ih =>
      rw [installAll_cons, ih, installRule]
      split <;> rfl

/-- Installing the same rules again changes nothing but the count of writes. -/
theorem installAll_again (r : Register) (installs : List Install) :
    ((r.installAll installs).installAll installs).uncounted =
      (r.installAll installs).uncounted := by
  let active := installs.filter fun install => r.current.contains install.policy
  have isActive : ∀ install ∈ active, r.current.contains install.policy = true :=
    fun install h => (List.mem_filter.1 h).2
  have once : r.installAll active = r.installAll installs := installAll_filter r installs
  have twice : (r.installAll installs).installAll active =
      (r.installAll installs).installAll installs := by
    have filtered := installAll_filter (r.installAll installs) installs
    rw [installAll_current] at filtered
    exact filtered
  have stillActive : ∀ install ∈ active,
      (r.installAll active).current.contains install.policy = true := by
    rw [installAll_current]
    exact isActive
  rw [← twice, ← once]
  obtain ⟨current, pending, log, version⟩ := installAll_frame (r.installAll active) active
  have owned : ((r.installAll active).installAll active).owned = (r.installAll active).owned := by
    refine owned_installAll fun install h _ => (mem_rulesOf_installAll_iff isActive).2 (.inr ?_)
    exact ⟨install, h, rfl, rfl⟩
  have rules : ((r.installAll active).installAll active).switches.rules =
      (r.installAll active).switches.rules := by
    refine Keyed.ext_get? fun id => ?_
    rw [get?_installAll stillActive, get?_installAll isActive, ← Option.or_assoc, Option.or_self]
  simp only [uncounted, current, pending, owned, log, version, rules, removed_installAll]

theorem uncounted_installAll_uncounted (r : Register) (installs : List Install) :
    (r.uncounted.installAll installs).uncounted = (r.installAll installs).uncounted := by
  induction installs generalizing r with
  | nil => rfl
  | cons install installs ih =>
      have first : (r.uncounted.installRule install.policy install.rule).2.uncounted =
          (r.installRule install.policy install.rule).2.uncounted := by
        cases current : r.current.contains install.policy with
        | false =>
            have current' : r.uncounted.current.contains install.policy = false := current
            rw [installRule_of_not_current current, installRule_of_not_current current']
            rfl
        | true =>
            have current' : r.uncounted.current.contains install.policy = true := current
            rw [installRule_of_current current, installRule_of_current current']
            rfl
      rw [installAll_cons, installAll_cons, ← ih, first, ih]

end PolicyRouting.Register
