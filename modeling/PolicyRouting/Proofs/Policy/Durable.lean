import PolicyRouting.Proofs.Form.RoundTrip
import PolicyRouting.Proofs.Policy.Reasons
import PolicyRouting.Proofs.Policy.Snapshots
import PolicyRouting.Proofs.Policy.Stamps
import PolicyRouting.Proofs.Text.Items

/-!
# Registers that a text can hold

A register is durable if nothing in it is lost between the text of its snapshot
and the register that is read from it: nothing is pending, only current
policies own rules, and the connect points of its policies are readable.
Requests, removals and installs keep it durable.
-/

namespace PolicyRouting

theorem ConnectPoint.isReadable_of_listOfText {s : String} {points : List ConnectPoint}
    (h : listOfText s = .ok points) : ∀ p ∈ points, p.IsReadable := by
  intro p mem
  have read : Except.ok p ∈ (Text.items s).map ofText := by
    rw [mapM_eq_ok_iff.1 h]
    exact List.mem_map_of_mem mem
  obtain ⟨item, -, read⟩ := List.mem_map.1 read
  exact isReadable_of_ofText read

theorem Request.isReadable_of_draft {request : Request} {serial : UInt64} {draft : Draft}
    (h : request.draft serial = .ok draft) : ∀ p ∈ draft.partialPath, p.IsReadable := by
  unfold Request.draft at h
  obtain ⟨application, -, h⟩ := bind_eq_ok h
  obtain ⟨priority, -, h⟩ := bind_eq_ok h
  obtain ⟨action, -, h⟩ := bind_eq_ok h
  obtain ⟨partialPath, read, h⟩ := bind_eq_ok h
  obtain ⟨srcHosts, -, h⟩ := bind_eq_ok h
  obtain ⟨dstHosts, -, h⟩ := bind_eq_ok h
  obtain ⟨checked, -, h⟩ := bind_eq_ok h
  obtain rfl := Except.ok.inj h
  cases via : request.partialPath with
  | none =>
      obtain rfl : [] = partialPath := by simpa [via, given] using read
      simp
  | some s =>
      rw [via] at read
      exact ConnectPoint.isReadable_of_listOfText read

theorem Draft.partialPath_of_check {draft : Draft} {now : Timestamp} {policy : Policy}
    (h : draft.check now = .ok policy) : policy.partialPath = draft.partialPath := by
  obtain ⟨-, -, src, dst, -, -, rfl⟩ := Draft.check_eq_ok h
  rfl

theorem Request.isReadable_of_build {request : Request} {serial : UInt64} {now : Timestamp}
    {id : PolicyId} {policy : Policy} (h : request.build serial now id = .ok policy) :
    policy.IsReadable := by
  obtain ⟨draft, drafted, checked⟩ := bind_eq_ok h
  have readable := isReadable_of_draft drafted
  have path := Draft.partialPath_of_check checked
  rw [Policy.IsReadable, path]
  exact readable

namespace Register

variable {r r' : Register}

structure Durable (r : Register) : Prop where
  kept : Kept r
  settled : r.pending = Keyed.empty
  readable : AllCurrent Policy.IsReadable r

theorem durable_empty : Durable empty := ⟨kept_empty, rfl, allCurrent_empty _⟩

theorem Durable.isReadable_capture (durable : Durable r) : (Snapshot.capture r).IsReadable :=
  fun _ mem => durable.readable _ _ (durable.kept.filed.mem_policies_iff.1 mem)

theorem Durable.ofText?_capture (durable : Durable r) :
    Snapshot.ofText? (Snapshot.capture r).toJson.toIndentedText = some (Snapshot.capture r) := by
  have ⟨plain, read⟩ := Snapshot.denotes durable.isReadable_capture
  rw [Snapshot.ofText?, Json.ofText?_toIndentedText plain]
  exact read

/-- What is read from the text of a durable register is durable, and the same but for its log. -/
theorem Durable.restore_capture (durable : Durable r) :
    Durable ((Snapshot.capture r).restore .empty) ∧
      ((Snapshot.capture r).restore .empty).bare = r.bare := by
  have whole : (Snapshot.capture r).restore .empty =
      { Register.empty with current := r.current, owned := r.owned } :=
    Snapshot.restore_capture durable.kept Switches.empty
  rw [whole]
  refine ⟨⟨durable.kept.congr rfl durable.settled.symm rfl, rfl, durable.readable⟩, ?_⟩
  simp only [bare, unstamped, durable.settled, empty]

theorem Durable.congr (durable : Durable r) (current : r'.current = r.current)
    (pending : r'.pending = r.pending) (owned : r'.owned = r.owned) : Durable r' where
  kept := durable.kept.congr current pending owned
  settled := pending.trans durable.settled
  readable id policy := current ▸ durable.readable id policy

theorem Durable.createRequest {request : Request} {serial : UInt64} {now : Timestamp}
    {policy : Policy} (durable : Durable r)
    (h : r.createRequest request serial now = .ok (policy, r')) : Durable r' := by
  rw [createRequest_eq] at h
  have performed : r.perform (.create (request.build serial now)) = r' := by
    rw [perform, h]
    rfl
  obtain ⟨built, -, -, after⟩ := create_eq_ok h
  have pending : r'.pending = r.pending := by rw [after]; rfl
  rw [← performed]
  refine ⟨durable.kept.perform _, ?_, durable.readable.create fun id built read => ?_⟩
  · rw [performed, pending, durable.settled]
  · have readable : built.IsReadable := Request.isReadable_of_build read
    exact readable

theorem Durable.removeText {s : String} {withdrawn : Nat} (durable : Durable r)
    (h : r.removeText s = .ok (withdrawn, r')) : Durable r' := by
  obtain ⟨id, -, h⟩ := bind_eq_ok h
  have performed : r.perform (.remove id) = r' := by
    rw [perform, h]
    rfl
  obtain ⟨policy, -, -, after⟩ := remove_eq_ok h
  have pending : r'.pending = r.pending := by rw [after]; rfl
  rw [← performed]
  refine ⟨durable.kept.perform _, ?_, durable.readable.remove id⟩
  rw [performed, pending, durable.settled]

theorem Durable.installAll (durable : Durable r) (installs : List Install) :
    Durable (r.installAll installs) where
  kept := kept_run durable.kept _
  settled := (installAll_frame r installs).2.1.trans durable.settled
  readable := durable.readable.installAll installs

end Register

end PolicyRouting
