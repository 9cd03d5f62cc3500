import PolicyRouting.Proofs.Policy.Numbering
import PolicyRouting.Proofs.Policy.Operations
import PolicyRouting.Proofs.Tables

/-!
# Parked policies

Making a policy current takes a parked policy of its id away, and a new policy
gets an id that no table has.  Parking alone does not look at the other table:
a policy that is parked under the id of a current one shares the id with it,
and replaces it when it is promoted.
-/

namespace PolicyRouting.Register

variable {r : Register}

/-- No id is both current and pending. -/
def Apart (r : Register) : Prop := r.current.Apart r.pending

/-- What the operation enters in one table has an id that the other table does not have. -/
def KeepsApart (r : Register) : Operation → Prop
  | .park policy => r.current.contains policy.id = false
  | .create build => ∀ built, build (PolicyId.next r.idsInUse) = .ok built →
      r.pending.contains (PolicyId.next r.idsInUse) = false
  | _ => True

theorem apart_empty : Apart empty := fun _ h => by simp [empty] at h

theorem Apart.create_iff (apart : Apart r) (build : PolicyId → Except Fault Policy) :
    Apart (r.perform (.create build)) ↔ KeepsApart r (.create build) := by
  cases hbuild : build (PolicyId.next r.idsInUse) with
  | error fault =>
      have same : r.perform (.create build) = r := by
        simp [perform, create, hbuild, bind, Except.bind, left]
      rw [same]
      apply iff_of_true apart
      intro built h
      rw [hbuild] at h
      contradiction
  | ok built =>
      have entered : (r.perform (.create build)).current =
          r.current.insert (PolicyId.next r.idsInUse) (built.withId (PolicyId.next r.idsInUse)) ∧
          (r.perform (.create build)).pending = r.pending := by
        simp [perform, create, hbuild, bind, Except.bind, pure, Except.pure, left, note]
      rw [Apart, entered.1, entered.2, Keyed.apart_insert_left_iff apart]
      constructor
      · intro free _ _
        exact free
      · intro free
        exact free built hbuild

theorem Apart.promote (apart : Apart r) (id : PolicyId) : Apart (r.perform (.promote id)) := by
  rcases r.perform_promote id with same | ⟨policy, -, after⟩
  · rw [same]
    exact apart
  · rw [after]
    exact Keyed.Apart.move apart id policy

theorem Apart.setState (apart : Apart r) (id : PolicyId) (state : PolicyState) :
    Apart (r.perform (.setState id state)) := by
  rcases r.perform_setState id state with same | ⟨before, hbefore, after⟩
  · rw [same]
    exact apart
  · rw [after]
    -- the policy is current already, so its id is not pending
    have present : r.current.contains id = true := Keyed.contains_eq_true_iff.2 ⟨before, hbefore⟩
    exact (Keyed.apart_insert_left_iff apart _).2 (apart id present)

theorem Apart.remove (apart : Apart r) (id : PolicyId) : Apart (r.perform (.remove id)) := by
  rcases r.perform_remove id with ⟨-, same⟩ | ⟨policy, -, after⟩
  · rw [same]
    exact apart
  · rw [after]
    exact Keyed.Apart.erase_left apart id

theorem Apart.perform_iff (apart : Apart r) (op : Operation) :
    Apart (r.perform op) ↔ KeepsApart r op := by
  cases op with
  | add policy | restore policy =>
      exact iff_of_true (Keyed.Apart.move apart policy.id policy) trivial
  | create build => exact apart.create_iff build
  | park policy => exact Keyed.apart_insert_right_iff apart policy
  | promote id => exact iff_of_true (apart.promote id) trivial
  | setState id state => exact iff_of_true (apart.setState id state) trivial
  | remove id => exact iff_of_true (apart.remove id) trivial
  | recordRule id rule =>
      have kept : Apart (r.perform (.recordRule id rule)) := by
        simp only [Register.perform, recordRule]
        split <;> exact apart
      exact iff_of_true kept trivial
  | installRule id rule =>
      have kept : Apart (r.perform (.installRule id rule)) := by
        simp only [Register.perform, installRule]
        split <;> exact apart
      exact iff_of_true kept trivial

/-- A new policy never takes the id of a parked one while one number is free. -/
theorem keepsApart_create {free : PolicyId} (hfree : free ∉ r.idsInUse)
    (build : PolicyId → Except Fault Policy) : KeepsApart r (.create build) := by
  intro built _
  have unused : PolicyId.next r.idsInUse ∉ r.current.keys ++ r.pending.keys :=
    PolicyId.next_not_mem hfree
  apply Bool.eq_false_iff.2
  intro parked
  exact unused (List.mem_append_right _ (Keyed.contains_iff.1 parked))

/-- Promoting replaces no current policy exactly where no id is both current and pending. -/
theorem apart_iff_promote :
    Apart r ↔ ∀ id policy r', r.promote id = .ok (policy, r') →
      r.current.contains id = false := by
  constructor
  · intro apart id policy r' h
    have parked : r.pending.contains id = true :=
      Keyed.contains_eq_true_iff.2 ⟨policy, (promote_eq_ok h).1⟩
    apply Bool.eq_false_iff.2
    intro present
    exact Bool.eq_false_iff.1 (apart id present) parked
  · intro replaces id present
    apply Bool.eq_false_iff.2
    intro parked
    obtain ⟨policy, hpolicy⟩ := Keyed.contains_eq_true_iff.1 parked
    have promoted : ∃ r', r.promote id = .ok (policy, r') := by simp [Register.promote, hpolicy]
    obtain ⟨r', h⟩ := promoted
    exact Bool.eq_false_iff.1 (replaces id policy r' h) present

theorem Apart.throughout_iff (apart : Apart r) (ops : List Operation) :
    (∀ n, Apart (r.run (ops.take n))) ↔
      ∀ n op, ops[n]? = some op → KeepsApart (r.run (ops.take n)) op := by
  -- nothing else has to be known of the register
  have free : ∀ (r : Register) (op : Operation), True → True := fun _ _ h => h
  exact Register.throughout_iff free (fun _ op _ apart => apart.perform_iff op) trivial apart ops

/--
In every state of a run each policy is kept under its own id.  No id is both current and pending
throughout the run exactly where no step parks a policy under a current id or creates one under a
pending id, and the latter happens only when no number is left.  A state without such an id is one
in which promoting replaces no current policy.
-/
theorem apart_throughout_iff (ops : List Operation) :
    let before := fun n => empty.run (ops.take n)
    (∀ n, (before n).Filed) ∧
    ((∀ n, (before n).Apart) ↔ ∀ n op, ops[n]? = some op → (before n).KeepsApart op) ∧
    (∀ n build, (∃ free, free ∉ (before n).idsInUse) → (before n).KeepsApart (.create build)) ∧
    (∀ n, (before n).Apart ↔ ∀ id policy r', (before n).promote id = .ok (policy, r') →
      (before n).current.contains id = false) := by
  intro before
  refine ⟨fun n => filed_run filed_empty _, apart_empty.throughout_iff ops, ?_, ?_⟩
  · rintro n build ⟨free, hfree⟩
    exact keepsApart_create hfree build
  · intro n
    exact apart_iff_promote

def campusTwin : Policy := { campusPolicy with priority := 60 }

/-- Its id is current and pending, and its promotion replaces the policy that is current. -/
theorem campusTwin_replaces_current :
    let r := empty.run [.add campusPolicy, .park campusTwin]
    r.current.get? 0 = some campusPolicy ∧ r.pending.get? 0 = some campusTwin ∧ ¬ r.Apart ∧
      (r.perform (.promote 0)).current.get? 0 = some campusTwin := by
  intro r
  have current : r.current.get? 0 = some campusPolicy := by decide
  have pending : r.pending.get? 0 = some campusTwin := by decide
  refine ⟨current, pending, ?_, by decide⟩
  intro apart
  have absent := apart 0 (Keyed.contains_eq_true_iff.2 ⟨_, current⟩)
  have present : r.pending.contains 0 = true := Keyed.contains_eq_true_iff.2 ⟨_, pending⟩
  rw [present] at absent
  contradiction

end PolicyRouting.Register
