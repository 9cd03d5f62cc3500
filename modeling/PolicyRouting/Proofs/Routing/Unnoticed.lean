import PolicyRouting.Routing.Engine

/-!
# Changes that no route notices

A scene may be changed in a way that no route notices: it has the same outcome,
and leaves the scene that is changed in the same way.  Then no packet notices
it either, since an engine looks at a scene only for its policies, and so does
no sequence of packets.
-/

namespace PolicyRouting

/--
The change, together with one of the policies, goes unnoticed by every route through a scene of
which `P` holds, and `P` goes on to hold.
-/
structure Scene.Unnoticed (P : Scene → Prop) (change : Scene → Scene)
    (rename : Policy → Policy) : Prop where
  route : ∀ scene class_ policy frame, P scene →
    (change scene).route class_ (rename policy) frame =
        (scene.route class_ policy frame).map id change ∧
      P (scene.route class_ policy frame).2
  settings : ∀ scene, (change scene).settings = scene.settings
  policies : ∀ scene, (change scene).register.policies = scene.register.policies.map rename
  action : ∀ policy, (rename policy).action = policy.action
  joins : ∀ policy class_ src dst, (rename policy).joins class_ src dst = policy.joins class_ src dst

namespace Engine

def changed (change : Scene → Scene) (e : Engine) : Engine := { e with scene := change e.scene }

/-- The second result is the first one, changed, and `P` holds of what it leaves. -/
def Matched {α : Type} (P : Scene → Prop) (change : Scene → Scene) (result changed' : α × Engine) :
    Prop :=
  changed' = result.map id (changed change) ∧ P result.2.scene

section Unnoticed

variable {P : Scene → Prop} {change : Scene → Scene} {rename : Policy → Policy}
  (unnoticed : Scene.Unnoticed P change rename) {e : Engine} (holds : P e.scene)
  (receiver : ConnectPoint) (frame : Frame)

include unnoticed

include holds in
theorem matched_routeAll (policies : List Policy) :
    Matched P change (e.routeAll frame policies)
      ((e.changed change).routeAll frame (policies.map rename)) := by
  induction policies generalizing e with
  | nil => exact ⟨rfl, holds⟩
  | cons policy rest ih =>
      obtain ⟨routed, next⟩ := unnoticed.route e.scene policy.action policy frame holds
      rcases h : e.scene.route policy.action policy frame with ⟨outcome, scene⟩
      rw [h] at routed next
      have first : (e.changed change).scene.route (rename policy).action (rename policy) frame =
          (outcome, change scene) := by
        rw [unnoticed.action]
        exact routed
      obtain ⟨others, left⟩ :=
        ih (e := { e with scene, counters := Counters.noted e.counters outcome }) next
      simp only [List.map_cons, routeAll, first, h]
      exact ⟨congrArg (fun result => (rulesIn outcome + result.1, result.2)) others, left⟩

theorem policiesFor_changed (e : Engine) (src dst : String) :
    (e.changed change).policiesFor src dst = (e.policiesFor src dst).map rename := by
  show (change e.scene).register.policies.filter _ = _
  rw [unnoticed.policies, List.filter_map]
  simp only [Function.comp_def, unnoticed.action, unnoticed.joins]
  rfl

include holds in
theorem matched_dispatch (src dst : String) :
    Matched P change (e.dispatch frame src dst) ((e.changed change).dispatch frame src dst) := by
  rw [dispatch, dispatch, policiesFor_changed unnoticed]
  cases e.policiesFor src dst with
  | nil => exact ⟨rfl, holds⟩
  | cons policy rest =>
      obtain ⟨routed, left⟩ := matched_routeAll unnoticed holds frame (policy :: rest)
      rw [List.map_cons] at routed
      simp only [List.map_cons, routed, List.length_cons, List.length_map]
      exact ⟨rfl, left⟩

omit unnoticed in
include holds in
theorem matched_answerArp (change : Scene → Scene) (message : Arp) :
    Matched P change (e.answerArp receiver frame message)
      ((e.changed change).answerArp receiver frame message) := by
  simp only [answerArp, show (e.changed change).regions = e.regions from rfl]
  split
  · split
    · cases e.regions.gatewayMac <;> exact ⟨rfl, holds⟩
    · exact ⟨rfl, holds⟩
  · exact ⟨rfl, holds⟩

include holds in
theorem matched_classify :
    Matched P change (e.classify receiver frame)
      ((e.changed change).classify receiver frame) := by
  have regions (ip : Ipv4) : (e.changed change).regionOf? ip = e.regionOf? ip := by
    show e.regions.regionOfIp? ip (change e.scene).settings.regionLength = _
    rw [unnoticed.settings]
    rfl
  simp only [classify, regions]
  split
  · exact ⟨rfl, holds⟩
  · split
    · cases frame.arp? with
      | none => exact ⟨rfl, holds⟩
      | some message =>
          obtain ⟨answered, left⟩ := matched_answerArp holds receiver frame change message
          simp only [answered]
          exact ⟨rfl, left⟩
    · cases frame.ipv4? with
      | none => exact ⟨rfl, holds⟩
      | some header =>
          simp only
          cases e.regionOf? header.src with
          | none => exact ⟨rfl, holds⟩
          | some src =>
              cases e.regionOf? header.dst with
              | none => exact ⟨rfl, holds⟩
              | some dst => exact matched_dispatch unnoticed holds frame src dst

include holds in
theorem matched_process (data : Bytes) :
    Matched P change (e.process receiver data) ((e.changed change).process receiver data) := by
  let counted : Engine :=
    { e with counters := { e.counters with packets := e.counters.packets + 1 } }
  simp only [process]
  cases Frame.ofBytes? data with
  | none => exact ⟨rfl, holds⟩
  | some frame => exact matched_classify (e := counted) unnoticed holds receiver frame

include holds in
theorem run_changed (packets : List (ConnectPoint × Bytes)) :
    (e.changed change).run packets = (e.run packets).changed change := by
  induction packets generalizing e with
  | nil => rfl
  | cons packet packets ih =>
      obtain ⟨processed, left⟩ := matched_process unnoticed holds packet.1 packet.2
      show run ((e.changed change).process packet.1 packet.2).2 packets = _
      rw [processed]
      exact ih left

end Unnoticed

variable (e : Engine) (change : Scene → Scene)

theorem scene_activate : e.activate.scene = e.scene := by
  unfold activate
  split <;> rfl

theorem scene_deactivate : e.deactivate.scene = e.scene := by
  unfold deactivate
  split <;> rfl

theorem activate_changed : (e.changed change).activate = e.activate.changed change := by
  simp only [activate, show (e.changed change).active = e.active from rfl]
  split <;> rfl

theorem deactivate_changed : (e.changed change).deactivate = e.deactivate.changed change := by
  simp only [deactivate, show (e.changed change).active = e.active from rfl]
  split <;> rfl

theorem replay_changed {P : Scene → Prop} {change : Scene → Scene} {rename : Policy → Policy}
    (unnoticed : Scene.Unnoticed P change rename) {e : Engine} (holds : P e.scene)
    (packets : List (ConnectPoint × Bytes)) :
    ((e.changed change).activate.run packets).deactivate =
      ((e.activate.run packets).deactivate).changed change := by
  have start : P e.activate.scene := by rwa [scene_activate]
  rw [activate_changed, run_changed unnoticed start, deactivate_changed]

end Engine

end PolicyRouting
