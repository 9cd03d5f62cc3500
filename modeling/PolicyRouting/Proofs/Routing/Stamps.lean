import PolicyRouting.Console.Replay
import PolicyRouting.Proofs.Policy.Stamps
import PolicyRouting.Proofs.Routing.Unnoticed

/-!
# Routing does not look at stamps

Neither the stamps of the policies nor what was noted decides how a packet is
routed: no route notices that they are gone.  So a replay over the bare register
reports the same.
-/

namespace PolicyRouting

theorem Register.installRules_unstamped (r : Register) (policy : PolicyId) (rules : List Rule) :
    r.unstamped.installRules policy rules = (r.installRules policy rules).map id unstamped := by
  induction rules generalizing r with
  | nil => rfl
  | cons rule rules ih =>
      rw [installRules, installRules, installRule_unstamped]
      rcases r.installRule policy rule with ⟨_ | _, r'⟩
      · rfl
      · exact ih r'

namespace Scene

def unstamped (scene : Scene) : Scene := { scene with register := scene.register.unstamped }

variable (scene : Scene) (class_ : RouteClass) (policy : Policy) (frame : Frame)

theorem install_unstamped (rules : List Rule) (constraintMet : Bool) :
    scene.unstamped.install policy.unstamped rules constraintMet =
      (scene.install policy rules constraintMet).map id unstamped := by
  have installed : scene.unstamped.register.installRules policy.unstamped.id rules = _ :=
    scene.register.installRules_unstamped policy.id rules
  rw [install, install, installed]
  rcases scene.register.installRules policy.id rules with ⟨_ | _, register⟩ <;> rfl

theorem connect_unstamped (src dst : Host) (selector : Selector) :
    scene.unstamped.connect class_ policy.unstamped src dst selector =
      (scene.connect class_ policy src dst selector).map id unstamped := by
  have chosen (candidates : List Path) :
      scene.unstamped.chooser.chooseFor policy.unstamped candidates =
        scene.chooser.chooseFor policy candidates := rfl
  simp only [connect, chosen]
  split
  · exact scene.install_unstamped policy _ true
  · rw [show scene.unstamped.graph = scene.graph from rfl]
    rcases scene.chooser.chooseFor policy _ with ⟨_ | choice, chooser⟩
    · rfl
    · exact install_unstamped { scene with chooser } policy _ _

theorem route_unstamped :
    scene.unstamped.route class_ policy.unstamped frame =
      (scene.route class_ policy frame).map id unstamped := by
  have selected (dst : HostId) :
      scene.unstamped.settings.selector? class_ frame policy.unstamped dst =
        scene.settings.selector? class_ frame policy dst := rfl
  simp only [route, selected, show scene.unstamped.directory = scene.directory from rfl]
  cases frame.ipv4? with
  | none => rfl
  | some header =>
      simp only
      cases scene.directory.destination? class_ frame header with
      | none => rfl
      | some dst =>
          simp only
          cases scene.directory.source? class_ frame header with
          | none => rfl
          | some src =>
              simp only
              split
              · rfl
              · exact scene.connect_unstamped class_ policy src dst _

theorem unnoticed_unstamped : Unnoticed (fun _ => True) unstamped Policy.unstamped where
  route scene class_ policy frame _ := ⟨scene.route_unstamped class_ policy frame, trivial⟩
  settings _ := rfl
  policies scene := scene.register.policies_unstamped
  action _ := rfl
  joins _ _ _ _ := rfl

end Scene

/-- The report tells nothing of the stamps, and the register is the same without them. -/
theorem Replay.run_bare (replay : Replay) (order : Nat → HostOrder) (r : Register) :
    (replay.run order r.bare).map id Register.bare =
      (replay.run order r).map id Register.bare := by
  have start : replay.engine order r.bare = (replay.engine order r).changed .unstamped := rfl
  have same := Engine.replay_changed Scene.unnoticed_unstamped (e := replay.engine order r) trivial
    replay.packets
  simp only [run, start, same]
  exact Prod.ext rfl (Register.bare_unstamped _)

end PolicyRouting
