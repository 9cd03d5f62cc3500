import PolicyRouting.Keyed
import PolicyRouting.Rule.Basic

/-!
# The rules in the devices

Rules by id, and how many were ever written and withdrawn.  A rule that is
written again under its id replaces the one that was there.  Below `2 ^ 64`
a 64-bit counter shows the same numbers.
-/

namespace PolicyRouting

structure Switches where
  rules : Keyed UInt64 Rule
  applied : Nat
  removed : Nat
  deriving Inhabited

namespace Switches

def empty : Switches := ⟨Keyed.empty, 0, 0⟩

def apply (s : Switches) (rule : Rule) : Switches :=
  { s with rules := s.rules.insert rule.id rule, applied := s.applied + 1 }

def withdraw (s : Switches) (rules : List Rule) : Switches :=
  { s with
    rules := rules.foldl (fun table rule => table.erase rule.id) s.rules
    removed := s.removed + rules.length }

def contains (s : Switches) (id : UInt64) : Bool := s.rules.contains id

def listed (s : Switches) : List Rule :=
  s.rules.values.mergeSort fun a b => a.device < b.device || (a.device == b.device && a.id ≤ b.id)

def on (s : Switches) (device : String) : List Rule := s.listed.filter (·.device = device)

@[simp] theorem contains_empty (id : UInt64) : empty.contains id = false := rfl

theorem get?_apply (s : Switches) (rule : Rule) (id : UInt64) :
    (s.apply rule).rules.get? id = if rule.id = id then some rule else s.rules.get? id := by
  simp [apply]

theorem contains_apply (s : Switches) (rule : Rule) (id : UInt64) :
    (s.apply rule).contains id = true ↔ rule.id = id ∨ s.contains id = true := by
  simp [apply, contains]

theorem get?_withdraw (s : Switches) (rules : List Rule) (id : UInt64) :
    (s.withdraw rules).rules.get? id =
      if id ∈ rules.map Rule.id then none else s.rules.get? id := by
  simp only [withdraw]
  generalize s.rules = table
  induction rules generalizing table with
  | nil => simp
  | cons rule rules ih =>
      rw [List.foldl_cons, ih, Keyed.get?_erase]
      by_cases h : rule.id = id
      · simp [h]
      · simp [h, Ne.symm h]

theorem withdraw_cons (s : Switches) (rule : Rule) (rules : List Rule) :
    s.withdraw (rule :: rules) = (s.withdraw [rule]).withdraw rules := by
  simp only [withdraw, List.foldl_cons, List.foldl_nil, List.length_cons, List.length_nil]
  congr 1
  omega

theorem contains_withdraw (s : Switches) (rules : List Rule) (id : UInt64) :
    (s.withdraw rules).contains id = true ↔
      id ∉ rules.map Rule.id ∧ s.contains id = true := by
  rw [contains, Keyed.contains, get?_withdraw]
  by_cases h : id ∈ rules.map Rule.id
  · simp [h]
  · simp [h, contains, Keyed.contains]

end Switches

end PolicyRouting
