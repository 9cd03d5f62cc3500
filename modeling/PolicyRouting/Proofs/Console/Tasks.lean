import PolicyRouting.Console.Answer
import PolicyRouting.Proofs.Policy.Durable
import PolicyRouting.Proofs.Routing.HostOrders
import PolicyRouting.Proofs.Routing.Runs
import PolicyRouting.Proofs.Routing.Stamps

/-!
# Tasks on bare registers

A task answers the same on every register that is the same but for stamps, log
and devices, and leaves registers that are again the same but for these.  So it
does under two orders of the hosts, unless a replay finds two owners of one
address.  It keeps a durable register durable, and a task that is not saved
behind leaves the register as it was.
-/

namespace PolicyRouting

open Register (Durable)

namespace Engine

variable {e : Engine}

theorem durable_run (durable : Durable e.scene.register) (packets : List (ConnectPoint × Bytes)) :
    Durable (e.run packets).scene.register := by
  induction packets generalizing e with
  | nil => exact durable
  | cons packet packets ih =>
      obtain ⟨-, -, register, -⟩ := process_spec durable.kept.filed packet.1 packet.2
      refine ih (e := (e.process packet.1 packet.2).2) ?_
      rw [register]
      exact durable.installAll _

end Engine

theorem Register.Durable.replay {r : Register} (durable : Durable r) (replay : Replay)
    (order : Nat → HostOrder) : Durable (replay.run order r).2 := by
  have start : Durable (replay.engine order r).activate.scene.register := by
    rw [Engine.scene_activate]
    exact durable.congr rfl rfl rfl
  simp only [Replay.run, Engine.scene_deactivate]
  exact Engine.durable_run start replay.packets

namespace Console.Task

variable {task : Task} {r r' : Register} {serial : UInt64} {now : Timestamp}
  {order order' : Nat → HostOrder} {answer : Answer}

theorem perform_create (request : Request) (serial : UInt64) (now : Timestamp)
    (order : Nat → HostOrder) (r : Register) :
    (create request).perform serial now order r =
      (r.createRequest request serial now).map fun created =>
        (.created created.1.id created.1.name created.1.priority, created.2) := by
  rw [perform]
  cases r.createRequest request serial now <;> rfl

theorem perform_remove (s : String) (serial : UInt64) (now : Timestamp)
    (order : Nat → HostOrder) (r : Register) :
    (remove s).perform serial now order r =
      (r.removeText s).map fun removed => (.removed s removed.1, removed.2) := by
  rw [perform]
  cases r.removeText s <;> rfl

theorem perform_bare (task : Task) (serial : UInt64) (now : Timestamp)
    (order : Nat → HostOrder) (r : Register) :
    (task.perform serial now order r).map (Prod.map id Register.bare) =
      (task.perform 0 (.ofEpochNanos 0) order r.bare).map (Prod.map id Register.bare) := by
  cases task with
  | create request =>
      -- the answer shows nothing of the stamps
      have told (result : Except Fault (Policy × Register)) :
          (result.map fun created => (Answer.created created.1.id created.1.name
              created.1.priority, created.2)).map (Prod.map id Register.bare) =
            (result.map (Prod.map Policy.unstamped Register.bare)).map fun created =>
              (Answer.created created.1.id created.1.name created.1.priority, created.2) := by
        cases result <;> rfl
      rw [perform_create, perform_create, told, told, Register.createRequest_bare]
  | list =>
      rw [perform, perform, Register.summaries_bare]
      exact congrArg (fun register => Except.ok (_, register)) r.bare_bare.symm
  | get s =>
      rw [perform, perform, Register.findText_bare]
      cases r.findText s with
      | error fault => rfl
      | ok policy => exact congrArg (fun register => Except.ok (_, register)) r.bare_bare.symm
  | remove s =>
      have told (result : Except Fault (Nat × Register)) :
          (result.map fun removed => (Answer.removed s removed.1, removed.2)).map
              (Prod.map id Register.bare) =
            (result.map (Prod.map id Register.bare)).map fun removed =>
              (Answer.removed s removed.1, removed.2) := by
        cases result <;> rfl
      rw [perform_remove, perform_remove, told, told, Register.removeText_bare]
  | replay prepared =>
      exact congrArg (fun result => Except.ok (Answer.replayed result.1, result.2))
        (prepared.run_bare order r).symm

/-- The hosts are walked in the same order, or no address of a replay has two owners. -/
def WalksAlike (task : Task) (order order' : Nat → HostOrder) : Prop :=
  order' = order ∨ ∀ prepared, task = replay prepared → (prepared.directory order).SoleOwners

theorem WalksAlike.perform_eq (alike : task.WalksAlike order order') (serial : UInt64)
    (now : Timestamp) (r : Register) :
    task.perform serial now order' r = task.perform serial now order r := by
  rcases alike with rfl | sole
  · rfl
  · cases task with
    | create | list | get | remove => rfl
    | replay prepared =>
        rw [perform, perform, Replay.run_eq_of_soleOwners (sole prepared rfl) order']

theorem perform_of_same {r' : Register} (same : r.bare = r'.bare)
    (alike : task.WalksAlike order order') (serial serial' : UInt64) (now now' : Timestamp) :
    (∃ fault, task.perform serial now order r = .error fault ∧
      task.perform serial' now' order' r' = .error fault) ∨
    ∃ answer after after', task.perform serial now order r = .ok (answer, after) ∧
      task.perform serial' now' order' r' = .ok (answer, after') ∧ after.bare = after'.bare := by
  have both := task.perform_bare serial now order r
  rw [alike.perform_eq serial' now' r']
  rw [same, ← task.perform_bare serial' now' order r'] at both
  cases first : task.perform serial now order r with
  | error fault =>
      cases second : task.perform serial' now' order r' with
      | error fault' =>
          obtain rfl : fault = fault' := by simpa [first, second, Except.map] using both
          exact .inl ⟨fault, rfl, rfl⟩
      | ok result' => simp [first, second, Except.map] at both
  | ok result =>
      obtain ⟨answer, after⟩ := result
      cases second : task.perform serial' now' order r' with
      | error fault' => simp [first, second, Except.map] at both
      | ok result' =>
          obtain ⟨answer', after'⟩ := result'
          obtain ⟨rfl, bare⟩ : answer = answer' ∧ after.bare = after'.bare := by
            simpa [first, second, Except.map] using both
          exact .inr ⟨answer, after, after', rfl, rfl, bare⟩

theorem durable_perform (durable : Durable r)
    (h : task.perform serial now order r = .ok (answer, r')) : Durable r' := by
  cases task with
  | create request =>
      obtain ⟨⟨policy, after⟩, created, h⟩ := bind_eq_ok h
      obtain ⟨-, rfl⟩ := Prod.mk.inj (Except.ok.inj h)
      exact durable.createRequest created
  | list =>
      obtain ⟨-, rfl⟩ := Prod.mk.inj (Except.ok.inj h)
      exact durable
  | get id =>
      obtain ⟨policy, -, h⟩ := bind_eq_ok h
      obtain ⟨-, rfl⟩ := Prod.mk.inj (Except.ok.inj h)
      exact durable
  | remove id =>
      obtain ⟨⟨withdrawn, after⟩, removed, h⟩ := bind_eq_ok h
      obtain ⟨-, rfl⟩ := Prod.mk.inj (Except.ok.inj h)
      exact durable.removeText removed
  | replay prepared =>
      obtain ⟨-, rfl⟩ := Prod.mk.inj (Except.ok.inj h)
      exact durable.replay prepared order

theorem perform_of_not_saves (noSave : task.saves = false)
    (h : task.perform serial now order r = .ok (answer, r')) : r' = r := by
  cases task with
  | create request | remove id | replay prepared => contradiction
  | list => exact (Prod.mk.inj (Except.ok.inj h)).2.symm
  | get id =>
      obtain ⟨policy, -, h⟩ := bind_eq_ok h
      exact (Prod.mk.inj (Except.ok.inj h)).2.symm

end Console.Task

end PolicyRouting
