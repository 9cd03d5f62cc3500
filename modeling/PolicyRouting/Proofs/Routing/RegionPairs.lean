import PolicyRouting.Proofs.Policy.Reasons
import PolicyRouting.Proofs.Routing.Runs

/-!
# Policies and pairs of regions

An operator creates policies by requests, changes their states and removes
them.  Whatever was asked for, all policies that are current are well formed.
So a pair of regions decides of which class the policies are that it meets,
and the traffic back meets the same policies as the traffic forth.
-/

namespace PolicyRouting

namespace Register

inductive Command where
  | create (request : Request) (serial : UInt64) (now : Timestamp)
  | transition (id : PolicyId) (state : PolicyState)
  | remove (s : String)

def obey (r : Register) : Command → Register
  | .create request serial now => r.left (r.createRequest request serial now)
  | .transition id state => r.left (r.setState id state)
  | .remove s => r.left (r.removeText s)

def obeyAll (r : Register) (commands : List Command) : Register := commands.foldl obey r

variable {r : Register}

theorem left_removeText (r : Register) (s : String) :
    r.left (r.removeText s) = r ∨ ∃ id, r.left (r.removeText s) = r.perform (.remove id) := by
  rw [removeText]
  cases PolicyId.ofText s with
  | error fault => exact .inl rfl
  | ok id => exact .inr ⟨id, rfl⟩

theorem AllCurrent.obey (all : AllCurrent Policy.WellFormed r) (command : Command) :
    AllCurrent Policy.WellFormed (r.obey command) := by
  cases command with
  | create request serial now =>
      rw [Register.obey, createRequest_eq]
      exact all.create fun id _ h => (Request.wellFormed_of_build h).withId id
  | transition id state => exact all.setState (fun _ state h => h.withState state) id state
  | remove s =>
      rcases r.left_removeText s with same | ⟨id, removed⟩
      · rw [Register.obey, same]
        exact all
      · rw [Register.obey, removed]
        exact all.remove id

theorem AllCurrent.obeyAll (all : AllCurrent Policy.WellFormed r) (commands : List Command) :
    AllCurrent Policy.WellFormed (r.obeyAll commands) := by
  induction commands generalizing r with
  | nil => exact all
  | cons command commands ih => exact ih (all.obey command)

theorem AllCurrent.of_mem_policies {property : Policy → Prop} (all : AllCurrent property r)
    {policy : Policy} (h : policy ∈ r.policies) : property policy := by
  obtain ⟨id, current⟩ := Keyed.mem_values_iff.1 h
  exact all id policy current

end Register

namespace Engine

variable {e : Engine}

theorem policiesFor_comm (all : e.scene.register.AllCurrent Policy.WellFormed) (src dst : String) :
    e.policiesFor src dst = e.policiesFor dst src :=
  List.filter_congr fun _ h => (all.of_mem_policies h).joins_comm src dst

theorem dispatch_comm (all : e.scene.register.AllCurrent Policy.WellFormed) (frame : Frame)
    (src dst : String) : e.dispatch frame src dst = e.dispatch frame dst src := by
  rw [dispatch, policiesFor_comm all src dst, dispatch]

theorem action_of_mem_policiesFor (all : e.scene.register.AllCurrent Policy.WellFormed)
    {src dst : String} {policy : Policy} (h : policy ∈ e.policiesFor src dst) :
    policy.action = .between src dst := by
  obtain ⟨current, joins⟩ := List.mem_filter.1 h
  exact (all.of_mem_policies current).classFits.action_of_joins joins

/--
Whatever an operator has asked for, the current policies are well formed, so between two regions an
engine takes intra policies only if the two are one and inter policies only if they are not, and it
routes a frame from the one to the other as it would in the other direction.
-/
theorem region_pair_decides_policies (commands : List Register.Command) (e : Engine) :
    let r := Register.empty.obeyAll commands
    let governed := e.withRegister r
    (∀ policy ∈ r.policies, policy.WellFormed) ∧
    ∀ src dst,
      (∀ policy ∈ governed.policiesFor src dst,
        (policy.action = .intra → src = dst) ∧ (policy.action = .inter → src ≠ dst)) ∧
      governed.policiesFor src dst = governed.policiesFor dst src ∧
      ∀ frame, governed.dispatch frame src dst = governed.dispatch frame dst src := by
  intro r governed
  have all : r.AllCurrent Policy.WellFormed :=
    (Register.allCurrent_empty _).obeyAll commands
  refine ⟨fun policy h => all.of_mem_policies h, fun src dst => ⟨fun policy h => ?_, ?_, ?_⟩⟩
  · have action := action_of_mem_policiesFor (e := governed) all h
    rw [action]
    exact ⟨RouteClass.between_eq_intra_iff.1, RouteClass.between_eq_inter_iff.1⟩
  · exact policiesFor_comm (e := governed) all src dst
  · exact fun frame => dispatch_comm (e := governed) all frame src dst

end Engine

end PolicyRouting
