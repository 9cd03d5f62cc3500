import PolicyRouting.Console.Replay
import PolicyRouting.Proofs.Routing.Hops
import PolicyRouting.Proofs.Routing.Unnoticed

/-!
# The order of the hosts

Routes ask a table of hosts for the first owner of an address.  Where no address
has two owners there is no choice, so no route notices in which order the hosts
are walked, and a replay reports and writes the same in every order.
-/

namespace PolicyRouting

theorem eq_of_perm_of_all_same {α : Type} {l m : List α} (perm : l.Perm m)
    (same : ∀ a ∈ l, ∀ b ∈ l, a = b) : l = m := by
  have related (l : List α) : l.Pairwise fun _ _ => True :=
    List.pairwise_of_forall fun _ _ => trivial
  exact perm.eq_of_pairwise (fun a b ha hb _ _ => same a ha b (perm.mem_iff.2 hb)) (related l)
    (related m)

def HostTable.reordered (order : Nat → HostOrder) (t : HostTable) : HostTable := { t with order }

namespace Directory

variable {d : Directory}

def reordered (order : Nat → HostOrder) (d : Directory) : Directory :=
  { d with hosts := d.hosts.reordered order }

/-- No address has two owners. -/
def SoleOwners (d : Directory) : Prop :=
  ∀ ip, ∀ host ∈ d.owners ip, ∀ other ∈ d.owners ip, host = other

theorem SoleOwners.owners_reordered (sole : d.SoleOwners) (order : Nat → HostOrder) (ip : Ipv4) :
    (d.reordered order).owners ip = d.owners ip := by
  have walks : d.hosts.walked.Perm (d.reordered order).hosts.walked :=
    ((d.hosts.order d.hosts.changes).perm d.hosts.byId).trans
      ((order d.hosts.changes).perm d.hosts.byId).symm
  exact (eq_of_perm_of_all_same (walks.filter _) (sole ip)).symm

theorem watch_reordered (d : Directory) (order : Nat → HostOrder) (ip : Ipv4) :
    (d.reordered order).watch ip = (d.watch ip).reordered order := by
  rw [watch, watch, show (d.reordered order).watched = d.watched from rfl]
  split <;> rfl

end Directory

namespace Scene

variable (scene : Scene) (order : Nat → HostOrder)

def reordered (scene : Scene) : Scene :=
  { scene with directory := scene.directory.reordered order }

variable (class_ : RouteClass) (policy : Policy) (frame : Frame)

theorem install_reordered (rules : List Rule) (constraintMet : Bool) :
    (scene.reordered order).install policy rules constraintMet =
      (scene.install policy rules constraintMet).map id (reordered order) := by
  rw [install, install, show (scene.reordered order).register = scene.register from rfl]
  rcases scene.register.installRules policy.id rules with ⟨_ | _, register⟩ <;> rfl

theorem connect_reordered (src dst : Host) (selector : Selector) :
    (scene.reordered order).connect class_ policy src dst selector =
      (scene.connect class_ policy src dst selector).map id (reordered order) := by
  have chosen (candidates : List Path) :
      (scene.reordered order).chooser.chooseFor policy candidates =
        scene.chooser.chooseFor policy candidates := rfl
  simp only [connect, chosen]
  split
  · exact scene.install_reordered order policy _ true
  · rw [show (scene.reordered order).graph = scene.graph from rfl]
    rcases scene.chooser.chooseFor policy _ with ⟨_ | choice, chooser⟩
    · rfl
    · exact install_reordered { scene with chooser } order policy _ _

variable {scene} in
theorem route_reordered (sole : scene.directory.SoleOwners) :
    (scene.reordered order).route class_ policy frame =
      (scene.route class_ policy frame).map id (reordered order) := by
  have owners := sole.owners_reordered order
  have host (id : HostId) : (scene.directory.reordered order).host? id = scene.directory.host? id :=
    rfl
  have destination (header : Ipv4Header) : (scene.reordered order).directory.destination? class_
      frame header = scene.directory.destination? class_ frame header := by
    simp only [reordered, Directory.destination?, host, owners]
  have source (header : Ipv4Header) : (scene.reordered order).directory.source? class_ frame
      header = scene.directory.source? class_ frame header := by
    simp only [reordered, Directory.source?, host, owners]
  have selected (dst : HostId) : (scene.reordered order).settings.selector? class_ frame policy dst
      = scene.settings.selector? class_ frame policy dst := rfl
  simp only [route, destination, source, selected]
  cases frame.ipv4? with
  | none => rfl
  | some header =>
      simp only
      cases scene.directory.destination? class_ frame header with
      | none =>
          simp only [reordered, Directory.watch_reordered]
          rfl
      | some dst =>
          simp only
          cases scene.directory.source? class_ frame header with
          | none => rfl
          | some src =>
              simp only
              split
              · rfl
              · exact scene.connect_reordered order class_ policy src dst _

variable {scene class_ policy frame} in
theorem soleOwners_route (sole : scene.directory.SoleOwners) :
    (scene.route class_ policy frame).2.directory.SoleOwners := by
  have hosts := (route_cases scene class_ policy frame).1.hosts
  simpa only [Directory.SoleOwners, Directory.owners, hosts] using sole

theorem unnoticed_reordered :
    Unnoticed (fun scene => scene.directory.SoleOwners) (reordered order) id where
  route _ class_ policy frame sole :=
    ⟨route_reordered order class_ policy frame sole, soleOwners_route sole⟩
  settings _ := rfl
  policies _ := (List.map_id _).symm
  action _ := rfl
  joins _ _ _ _ := rfl

end Scene

namespace Replay

variable {replay : Replay} {order : Nat → HostOrder}

theorem directory_reordered (replay : Replay) (order order' : Nat → HostOrder) :
    (replay.directory order).reordered order' = replay.directory order' := by
  have start : (Directory.walkedIn order).reordered order' = .walkedIn order' := rfl
  unfold directory
  rw [← start]
  generalize Directory.walkedIn order = d
  induction replay.hosts generalizing d with
  | nil => rfl
  | cons host hosts ih => exact ih (d.add host)

/-- Where no address has two owners, every order leads to the same report and register. -/
theorem run_eq_of_soleOwners (sole : (replay.directory order).SoleOwners)
    (order' : Nat → HostOrder) (r : Register) : replay.run order' r = replay.run order r := by
  have start : replay.engine order' r = (replay.engine order r).changed (.reordered order') := by
    simp only [engine, Engine.changed, Scene.reordered, directory_reordered]
  have same := Engine.replay_changed (Scene.unnoticed_reordered order')
    (e := replay.engine order r) sole replay.packets
  simp only [run, start, same]
  rfl

end Replay

end PolicyRouting
