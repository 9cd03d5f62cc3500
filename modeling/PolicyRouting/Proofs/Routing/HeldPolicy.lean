import PolicyRouting.Proofs.Routing.CompletePath

/-!
# Routing under a policy that was removed

A policy value may be held beyond the removal of the policy, as by somebody who
goes through a list of policies that he read before.  Installing asks only
whether the id of the value is current.  So the value installs nothing as long
as its id stays free; once another policy has taken the id, the value installs
its rules again, with its own priority and hosts, and the other policy owns
them.  An id is given again as soon as it is the smallest that is free.
-/

namespace PolicyRouting

namespace Register

/-- The id under which an operation makes a policy current that was not so before. -/
def entered? (r : Register) : Operation → Option PolicyId
  | .add policy | .restore policy => some policy.id
  | .create build =>
      let id := PolicyId.next r.idsInUse
      match build id with
      | .ok _ => some id
      | .error _ => none
  | .promote id => if r.pending.contains id then some id else none
  | _ => none

/-- An operation of the run makes a policy current under the id, and none removes it after that. -/
def Retaken (r : Register) (id : PolicyId) (ops : List Operation) : Prop :=
  ∃ earlier op later, ops = earlier ++ op :: later ∧
    (r.run earlier).entered? op = some id ∧ .remove id ∉ later

variable {r : Register} {id : PolicyId}

theorem contains_perform_create_iff (r : Register) (build : PolicyId → Except Fault Policy)
    (id : PolicyId) :
    (r.perform (.create build)).current.contains id = true ↔
      r.entered? (.create build) = some id ∨ r.current.contains id = true := by
  cases hbuild : build (PolicyId.next r.idsInUse) with
  | error fault =>
      simp [perform, create, hbuild, bind, Except.bind, left, entered?]
  | ok built =>
      simp [perform, create, hbuild, bind, Except.bind, pure, Except.pure, left, note, entered?,
        Policy.withId]

theorem contains_perform_promote_iff (r : Register) (parked id : PolicyId) :
    (r.perform (.promote parked)).current.contains id = true ↔
      r.entered? (.promote parked) = some id ∨ r.current.contains id = true := by
  cases hpending : r.pending.get? parked with
  | none => simp [perform, promote, hpending, left, entered?, Keyed.contains]
  | some policy =>
      have present : r.pending.contains parked = true :=
        Keyed.contains_eq_true_iff.2 ⟨policy, hpending⟩
      simp [perform, promote, hpending, left, note, entered?, present]

theorem contains_perform_iff (r : Register) (op : Operation) (id : PolicyId) :
    (r.perform op).current.contains id = true ↔
      r.entered? op = some id ∨ (r.current.contains id = true ∧ op ≠ .remove id) := by
  cases op with
  | add policy | restore policy =>
      simp [perform, Register.add, Register.restore, note, entered?]
  | create build => simp [contains_perform_create_iff]
  | park policy => simp [perform, Register.park, entered?]
  | promote parked => simp [contains_perform_promote_iff]
  | setState changed state =>
      rcases r.perform_setState changed state with same | ⟨before, hbefore, after⟩
      · simp [same, entered?]
      · have was : r.current.contains changed = true := Keyed.contains_eq_true_iff.2 ⟨_, hbefore⟩
        rw [after]
        simp only [note, Keyed.contains_insert, entered?, reduceCtorEq, false_or, ne_eq,
          not_false_eq_true, and_true]
        exact or_iff_right_of_imp fun same => same ▸ was
  | remove left =>
      rcases r.perform_remove left with ⟨gone, same⟩ | ⟨policy, -, after⟩
      · rw [same]
        simp only [entered?, reduceCtorEq, false_or, ne_eq, Operation.remove.injEq]
        refine ⟨fun h => ⟨h, ?_⟩, And.left⟩
        rintro rfl
        rw [gone] at h
        contradiction
      · rw [after]
        simp [note, entered?, and_comm]
  | recordRule owner rule =>
      simp only [perform, recordRule]
      split <;> simp [entered?]
  | installRule owner rule => simp [perform, entered?]

theorem retaken_cons_iff {op : Operation} {ops : List Operation} :
    Retaken r id (op :: ops) ↔
      (r.entered? op = some id ∧ .remove id ∉ ops) ∨ Retaken (r.perform op) id ops := by
  constructor
  · rintro ⟨earlier, entering, later, hops, entered, kept⟩
    cases earlier with
    | nil =>
        obtain ⟨rfl, rfl⟩ := List.cons.inj hops
        exact .inl ⟨entered, kept⟩
    | cons first earlier =>
        obtain ⟨rfl, rfl⟩ := List.cons.inj hops
        exact .inr ⟨earlier, entering, later, rfl, entered, kept⟩
  · rintro (⟨entered, kept⟩ | ⟨earlier, entering, later, rfl, entered, kept⟩)
    · exact ⟨[], op, ops, rfl, entered, kept⟩
    · exact ⟨op :: earlier, entering, later, rfl, entered, kept⟩

theorem contains_run_iff (r : Register) (ops : List Operation) (id : PolicyId) :
    (r.run ops).current.contains id = true ↔
      Retaken r id ops ∨ (r.current.contains id = true ∧ .remove id ∉ ops) := by
  induction ops generalizing r with
  | nil => simp [Retaken]
  | cons op ops ih =>
      rw [run_cons, ih, retaken_cons_iff, contains_perform_iff, List.mem_cons, not_or, ne_comm]
      tauto

theorem contains_after_removal_iff (r : Register) (ops : List Operation) (id : PolicyId) :
    ((r.perform (.remove id)).run ops).current.contains id = true ↔
      Retaken (r.perform (.remove id)) id ops := by
  have gone : ¬ (r.perform (.remove id)).current.contains id = true := by
    simp [contains_perform_iff, entered?]
  rw [contains_run_iff]
  exact or_iff_left fun h => gone h.1

end Register

namespace Scene

variable {scene : Scene} {class_ : RouteClass} {policy : Policy} {frame : Frame}

theorem installed_iff (scene : Scene) (class_ : RouteClass) (policy : Policy) (frame : Frame) :
    (∃ n met, (scene.route class_ policy frame).1 = .installed n met) ↔
      scene.register.current.contains policy.id = true ∧
        scene.hops class_ policy frame ≠ [] := by
  rcases (route_cases scene class_ policy frame).2 with
    ⟨-, -, not_installed, empty⟩ | ⟨current, ends, links, met, hends, hchosen, installed, -⟩
  · constructor
    · rintro ⟨n, met, h⟩
      exact absurd h (not_installed n met)
    · rintro ⟨current, some_hop⟩
      exact absurd (empty current) some_hop
  · refine iff_of_true ⟨_, _, installed⟩ ⟨current, ?_⟩
    rw [hops_eq_hopsAlong hends hchosen]
    exact RuleTemplate.hops_ne_nil

theorem route_register_of_not_current
    (gone : ¬ scene.register.current.contains policy.id = true) :
    (scene.route class_ policy frame).2.register = scene.register := by
  rcases (route_cases scene class_ policy frame).2 with ⟨same, -⟩ | ⟨current, -⟩
  · exact same
  · exact absurd current gone

/--
Routing under a value whose policy was removed: while nobody has taken the id again the register
stays as it is, with all rules; and once the id is taken the value installs every hop that it finds.
-/
theorem route_after_removal (r : Register) (rest : List Register.Operation) (scene : Scene)
    (class_ : RouteClass) (policy : Policy) (frame : Frame) :
    let removed := r.perform (.remove policy.id)
    let held : Scene := { scene with register := removed.run rest }
    let after := held.route class_ policy frame
    ((∃ n met, after.1 = .installed n met) ↔
      removed.Retaken policy.id rest ∧ held.hops class_ policy frame ≠ []) ∧
    (removed.Retaken policy.id rest →
      after.2.register = held.register.installAll (held.installs class_ policy frame)) ∧
    (¬ removed.Retaken policy.id rest → after.2.register = held.register) := by
  intro removed held after
  have current : held.register.current.contains policy.id = true ↔
      removed.Retaken policy.id rest := r.contains_after_removal_iff rest policy.id
  rw [← current]
  exact ⟨held.installed_iff class_ policy frame, held.route_register class_ frame,
    route_register_of_not_current⟩

end Scene

def eastboundCreation (priority : String) (serial : UInt64) : Register.Operation :=
  .create ((eastboundRequest priority).build serial (.ofEpochNanos 0))

/-- The eastbound policy was created and removed, and one of another priority has its id. -/
def succeededScene : Scene :=
  { lineScene with
    register := Register.empty.run
      [eastboundCreation "50" 1, .remove 0, eastboundCreation "60" 2] }

theorem succeeded_value_installs :
    (Register.empty.run [eastboundCreation "50" 1]).policies = [eastboundPolicy] ∧
    succeededScene.register.policies.map (·.priority) = [60] ∧
    succeededScene.register.rulesOf 0 = [] ∧
    succeededScene.register.switches.rules.size = 0 ∧
    (succeededScene.route .inter eastboundPolicy eastboundFrame).1 = .installed 3 true ∧
    ((succeededScene.route .inter eastboundPolicy eastboundFrame).2.register.rulesOf 0).map
      (·.priority) = [50, 50, 50] ∧
    (succeededScene.route .inter eastboundPolicy
      eastboundFrame).2.register.switches.rules.size = 3 := by
  decide +kernel

end PolicyRouting
