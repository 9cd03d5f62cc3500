import PolicyRouting.Proofs.Policy.Installs
import PolicyRouting.Proofs.Policy.Ownership

/-!
# Why a policy owns a rule

A rule is owned by a policy for a reason: when it was installed it had to do
with the policy as it was then.  The policy under an id may be another one
later, but not while rules are owned under the id: a removal takes the rules
with it, and a new policy gets an id that no policy has.  So a reason that does
not depend on the state of the policy stays good as long as the rule is owned.
-/

namespace PolicyRouting.Register

def AllCurrent (property : Policy → Prop) (r : Register) : Prop :=
  ∀ id policy, r.current.get? id = some policy → property policy

/-- Every owned rule has the reason to be owned by its policy. -/
def OwnedFor (reason : Policy → Rule → Prop) (r : Register) : Prop :=
  ∀ id, ∀ rule ∈ r.rulesOf id, ∃ policy, r.current.get? id = some policy ∧ reason policy rule

theorem ownedFor_empty (reason : Policy → Rule → Prop) : OwnedFor reason empty :=
  fun _ _ h => absurd h List.not_mem_nil

theorem allCurrent_empty (property : Policy → Prop) : AllCurrent property empty :=
  fun _ _ h => by simp [empty] at h

variable {r r' : Register} {reason other : Policy → Rule → Prop} {property : Policy → Prop}
  {policy : Policy} {id : PolicyId}

theorem OwnedFor.mono (owned : OwnedFor reason r)
    (weaker : ∀ policy rule, reason policy rule → other policy rule) : OwnedFor other r := by
  intro id rule hrule
  obtain ⟨policy, hpolicy, why⟩ := owned id rule hrule
  exact ⟨policy, hpolicy, weaker policy rule why⟩

theorem Change.get?_of_no_install {op : Operation} (h : Change r op r')
    (noInstall : ∀ id rule, op ≠ .installRule id rule) {ruleId : UInt64} {rule : Rule}
    (held : r'.switches.rules.get? ruleId = some rule) :
    r.switches.rules.get? ruleId = some rule := by
  cases h with
  | idle _ _ _ _ switches | enter _ _ _ _ _ _ switches | record _ _ _ _ _ _ switches =>
      rw [switches] at held
      exact held
  | leave _ _ _ _ _ switches =>
      rw [switches, Switches.get?_withdraw] at held
      split at held
      · contradiction
      · exact held
  | install id rule _ _ _ _ _ => exact absurd rfl (noInstall id rule)

theorem get?_next (acc : Accounted r) {free : PolicyId} (hfree : free ∉ r.idsInUse) :
    r.current.get? (PolicyId.next r.idsInUse) = none ∧
      r.rulesOf (PolicyId.next r.idsInUse) = [] := by
  have unused := PolicyId.next_not_mem hfree
  have absent : r.current.contains (PolicyId.next r.idsInUse) ≠ true := fun h =>
    unused (List.mem_append_left _ (Keyed.contains_iff.1 h))
  refine ⟨?_, Classical.byContradiction fun owns => absent (acc.owner_current _ owns)⟩
  cases h : r.current.get? (PolicyId.next r.idsInUse) with
  | none => rfl
  | some policy => exact absurd (Keyed.contains_eq_true_iff.2 ⟨policy, h⟩) absent

theorem OwnedFor.create (owned : OwnedFor reason r) (acc : Accounted r) {free : PolicyId}
    (hfree : free ∉ r.idsInUse) (build : PolicyId → Except Fault Policy) :
    OwnedFor reason (r.perform (.create build)) := by
  rcases r.perform_create build with same | ⟨built, -, after⟩
  · rw [same]
    exact owned
  · rw [after]
    intro id rule hrule
    have before : rule ∈ r.rulesOf id := hrule
    obtain ⟨policy, hcurrent, why⟩ := owned id rule before
    refine ⟨policy, ?_, why⟩
    have apart : PolicyId.next r.idsInUse ≠ id := by
      rintro rfl
      rw [(get?_next acc hfree).2] at before
      exact List.not_mem_nil before
    simp only [note, Keyed.get?_insert, rank_inj, if_neg apart]
    exact hcurrent

theorem AllCurrent.create (all : AllCurrent property r)
    {build : PolicyId → Except Fault Policy}
    (new : ∀ id built, build id = .ok built → property (built.withId id)) :
    AllCurrent property (r.perform (.create build)) := by
  rcases r.perform_create build with same | ⟨built, hbuilt, after⟩
  · rw [same]
    exact all
  · rw [after]
    intro id found hfound
    simp only [note, Keyed.get?_insert] at hfound
    split at hfound
    · obtain rfl := Option.some.inj hfound
      exact new _ built hbuilt
    · exact all id found hfound

theorem OwnedFor.setState (owned : OwnedFor reason r)
    (stable : ∀ policy rule state, reason policy rule → reason (policy.withState state) rule)
    (id : PolicyId) (state : PolicyState) : OwnedFor reason (r.perform (.setState id state)) := by
  rcases r.perform_setState id state with same | ⟨before, hbefore, after⟩
  · rw [same]
    exact owned
  · rw [after]
    intro other rule hrule
    have mine : rule ∈ r.rulesOf other := hrule
    obtain ⟨policy, hcurrent, why⟩ := owned other rule mine
    by_cases same : id = other
    · subst same
      obtain rfl : before = policy := Option.some.inj (hbefore.symm.trans hcurrent)
      exact ⟨before.withState state, by simp [note], stable before rule state why⟩
    · refine ⟨policy, ?_, why⟩
      simp only [note, Keyed.get?_insert, rank_inj, if_neg same]
      exact hcurrent

theorem AllCurrent.setState (all : AllCurrent property r)
    (stable : ∀ policy state, property policy → property (policy.withState state))
    (id : PolicyId) (state : PolicyState) :
    AllCurrent property (r.perform (.setState id state)) := by
  rcases r.perform_setState id state with same | ⟨before, hbefore, after⟩
  · rw [same]
    exact all
  · rw [after]
    intro other found hfound
    simp only [note, Keyed.get?_insert] at hfound
    split at hfound
    · obtain rfl := Option.some.inj hfound
      exact stable before state (all id before hbefore)
    · exact all other found hfound

theorem OwnedFor.remove (owned : OwnedFor reason r) (id : PolicyId) :
    OwnedFor reason (r.perform (.remove id)) := by
  rcases r.perform_remove id with ⟨-, same⟩ | ⟨policy, -, after⟩
  · rw [same]
    exact owned
  · have erased : (r.perform (.remove id)).owned = r.owned.erase id := by
      rw [after]
      rfl
    intro other rule hrule
    rw [rulesOf_of_erase erased] at hrule
    split at hrule
    · exact absurd hrule List.not_mem_nil
    · obtain ⟨policy, hcurrent, why⟩ := owned other rule hrule
      refine ⟨policy, ?_, why⟩
      rw [after]
      simp only [note, Keyed.get?_erase, rank_inj, if_neg ‹¬id = other›]
      exact hcurrent

theorem AllCurrent.remove (all : AllCurrent property r) (id : PolicyId) :
    AllCurrent property (r.perform (.remove id)) := by
  rcases r.perform_remove id with ⟨-, same⟩ | ⟨policy, -, after⟩
  · rw [same]
    exact all
  · rw [after]
    intro other found hfound
    simp only [note, Keyed.get?_erase] at hfound
    split at hfound
    · contradiction
    · exact all other found hfound

theorem OwnedFor.installAll {installs : List Install} (owned : OwnedFor reason r)
    (acc : Accounted r)
    (reasons : ∀ install ∈ installs, ∀ policy,
      r.current.get? install.policy = some policy → reason policy install.rule) :
    OwnedFor reason (r.installAll installs) := by
  intro id rule hrule
  obtain ⟨more, hmore, installed⟩ := exists_rulesOf_installAll r installs id
  have acc' : Accounted (r.installAll installs) := accounted_run acc _
  have active := acc'.owner_current id (List.ne_nil_of_mem hrule)
  rw [installAll_current] at active ⊢
  obtain ⟨policy, hpolicy⟩ := Keyed.contains_eq_true_iff.1 active
  rw [hmore] at hrule
  rcases List.mem_append.1 hrule with old | new
  · exact owned id rule old
  · exact ⟨policy, hpolicy, reasons ⟨id, rule⟩ (installed rule new) policy hpolicy⟩

theorem AllCurrent.installAll (all : AllCurrent property r) (installs : List Install) :
    AllCurrent property (r.installAll installs) := by
  intro id policy h
  rw [installAll_current] at h
  exact all id policy h

end PolicyRouting.Register
