import PolicyRouting.Proofs.Routing.HeldPolicy

/-!
# Whether a route honours the partial path

The partial path of a policy is compared with the candidates only where the two
hosts are on different devices and the policy does not leave the choice to
chance.  There a route says that the constraint was met exactly if every
connect point of the partial path is an end of one of its links.  A route on a
single device, or one that chance has chosen, says so always.  The engine
counts the routes that say otherwise, so it misses those that were not checked
and do not honour the partial path.
-/

namespace PolicyRouting

structure Course where
  policy : Policy
  links : List Link
  deriving DecidableEq, Repr

namespace Course

/-- Every connect point of the partial path is an end of one of the links. -/
def Honoured (course : Course) : Prop :=
  ∀ point ∈ course.policy.partialPath, ∃ link ∈ course.links, point = link.src ∨ point = link.dst

/-- Nothing was compared with the partial path. -/
def Unchecked (course : Course) : Prop :=
  course.links = [] ∨ course.policy.preference = .random

instance (course : Course) : Decidable course.Honoured := by
  unfold Honoured
  infer_instance

instance (course : Course) : Decidable course.Unchecked := by
  unfold Unchecked
  infer_instance

end Course

theorem Path.visits_iff {path : Path} {required : List ConnectPoint} :
    path.visits required = true ↔
      ∀ point ∈ required, ∃ link ∈ path.links, point = link.src ∨ point = link.dst := by
  simp [visits, endpoints, List.mem_eraseDups]

theorem meetsConstraint_constrainedChoice (required : List ConnectPoint) (first : Path)
    (others : List Path) :
    (constrainedChoice required first others).meetsConstraint =
      (constrainedChoice required first others).path.visits required := by
  unfold constrainedChoice
  split
  · rename_i path found
    have visited : path.visits required = true := (List.find?_eq_some_iff_append.1 found).1
    rw [visited]
    rfl
  · rename_i missing
    -- the last candidate does not visit the points either
    have last := List.find?_eq_none.1 missing _ (List.getLast_mem (List.cons_ne_nil first others))
    rw [Bool.eq_false_iff.2 last]
    rfl

section Choose

variable {chooser : Chooser} {preference : PathPreference} {candidates : List Path}
  {required : List ConnectPoint} {choice : Choice}

theorem meetsConstraint_of_random
    (h : (chooser.choose .random candidates required).1 = some choice) :
    choice.meetsConstraint = true := by
  cases candidates with
  | nil => contradiction
  | cons first others =>
      rw [← Option.some.inj h]
      rfl

theorem meetsConstraint_of_fixed (fixed : preference ≠ .random)
    (h : (chooser.choose preference candidates required).1 = some choice) :
    choice.meetsConstraint = choice.path.visits required := by
  cases candidates with
  | nil => contradiction
  | cons first others =>
      cases preference with
      | random => contradiction
      | equalCost | bestPossible | onDemand =>
          rw [← Option.some.inj h]
          exact meetsConstraint_constrainedChoice required first others

end Choose

/-! ## Routes -/

namespace Scene

variable {scene : Scene} {class_ : RouteClass} {policy : Policy} {frame : Frame} {ends : Ends}
  {links : List Link} {met : Bool} {src dst : String} {n : Nat}

theorem met_iff_of_chosen (h : (scene.chosen policy src dst).1 = some (links, met)) :
    met = true ↔ (⟨policy, links⟩ : Course).Honoured ∨ (⟨policy, links⟩ : Course).Unchecked := by
  have still := (isShortest_of_chosen h).eq_nil_iff
  unfold chosen at h
  split at h
  · rename_i same
    obtain ⟨-, rfl⟩ : [] = links ∧ true = met := by simpa using h
    exact iff_of_true rfl (.inr (.inl (still.2 same)))
  · rename_i apart
    obtain ⟨choice, hchoice, heq⟩ := Option.map_eq_some_iff.1 h
    obtain ⟨rfl, rfl⟩ := Prod.mk.inj heq
    by_cases random : policy.preference = .random
    · rw [Chooser.chooseFor, random] at hchoice
      exact iff_of_true (meetsConstraint_of_random hchoice) (.inr (.inr random))
    · have checked : ¬ (⟨policy, choice.path.links⟩ : Course).Unchecked :=
        not_or.2 ⟨mt still.1 apart, random⟩
      rw [meetsConstraint_of_fixed random hchoice, Path.visits_iff]
      exact (or_iff_left checked).symm

def course? (scene : Scene) (class_ : RouteClass) (policy : Policy) (frame : Frame) :
    Option Course :=
  match (scene.route class_ policy frame).1 with
  | .installed _ _ => some ⟨policy, (scene.hops class_ policy frame).filterMap Hop.link⟩
  | _ => none

theorem filterMap_link_hopsAlong :
    (scene.hopsAlong class_ policy ends links).filterMap Hop.link = links := by
  have linked : ∀ (t : RuleTemplate) (links : List Link),
      (links.map (t.linkHop none)).filterMap Hop.link = links := by
    intro t links
    simp [List.filterMap_map, Function.comp_def, RuleTemplate.linkHop]
  cases links with
  | nil => rfl
  | cons link rest =>
      simp [hopsAlong, RuleTemplate.hops, List.filterMap_append, linked, RuleTemplate.lastHop,
        RuleTemplate.linkHop]

theorem course?_of_installed (h : (scene.route class_ policy frame).1 = .installed n met)
    (hends : scene.ends? class_ policy frame = some ends)
    (hchosen : (scene.chosen policy ends.src.location.device ends.dst.location.device).1 =
      some (links, met)) :
    scene.course? class_ policy frame = some ⟨policy, links⟩ := by
  rw [course?, h, hops_eq_hopsAlong hends hchosen, filterMap_link_hopsAlong]

def courses (scene : Scene) (frame : Frame) : List Policy → List Course
  | [] => []
  | policy :: rest =>
      (scene.course? policy.action policy frame).toList ++
        courses (scene.route policy.action policy frame).2 frame rest

end Scene

namespace Course

/-- How many of the courses were compared with the partial path in vain. -/
def refused (courses : List Course) : Nat :=
  courses.countP fun course => ¬ (course.Honoured ∨ course.Unchecked)

@[simp] theorem refused_nil : refused [] = 0 := rfl

@[simp] theorem refused_append (courses more : List Course) :
    refused (courses ++ more) = refused courses + refused more := List.countP_append

theorem countP_not_honoured (courses : List Course) :
    courses.countP (fun course => ¬ course.Honoured) =
      refused courses +
        courses.countP (fun course => course.Unchecked ∧ ¬ course.Honoured) := by
  induction courses with
  | nil => rfl
  | cons course rest ih =>
      rw [refused] at ih ⊢
      simp only [List.countP_cons]
      rw [ih, Nat.add_add_add_comm]
      congr 1
      by_cases honoured : course.Honoured
      · simp [honoured]
      · by_cases unchecked : course.Unchecked <;> simp [honoured, unchecked]

end Course

namespace Engine

theorem pathFallbacks_noted (counters : PolicyRouting.Counters) (scene : Scene)
    (class_ : RouteClass) (policy : Policy) (frame : Frame) :
    (Counters.noted counters (scene.route class_ policy frame).1).pathFallbacks =
      counters.pathFallbacks + Course.refused (scene.course? class_ policy frame).toList := by
  cases outcome : (scene.route class_ policy frame).1 with
  | installed n met =>
      obtain ⟨-, ends, links, hends, hchosen, -⟩ := Scene.exists_of_installed outcome
      have truth := Scene.met_iff_of_chosen hchosen
      rw [Scene.course?_of_installed outcome hends hchosen]
      simp only [Course.refused, Option.toList_some, List.countP_singleton, Counters.noted, ← truth]
      cases met <;> rfl
  | noSelector | sourceUnknown | destinationUnknown | noPath | withdrawn =>
      simp [Counters.noted, Scene.course?, outcome]

theorem pathFallbacks_routeAll (e : Engine) (frame : Frame) (policies : List Policy) :
    (e.routeAll frame policies).2.counters.pathFallbacks =
      e.counters.pathFallbacks + Course.refused (e.scene.courses frame policies) := by
  induction policies generalizing e with
  | nil => rfl
  | cons policy rest ih =>
      simp only [routeAll]
      rw [ih, pathFallbacks_noted, Scene.courses, Course.refused_append, Nat.add_assoc]

theorem pathFallbacks_dispatch (e : Engine) (frame : Frame) (src dst : String) :
    (e.dispatch frame src dst).2.counters.pathFallbacks =
      e.counters.pathFallbacks +
        Course.refused (e.scene.courses frame (e.policiesFor src dst)) := by
  cases hpolicies : e.policiesFor src dst with
  | nil =>
      simp only [dispatch, hpolicies]
      rfl
  | cons first rest =>
      simp only [dispatch, hpolicies]
      exact pathFallbacks_routeAll e frame (first :: rest)

def coursesOf (e : Engine) (data : Bytes) : List Course :=
  match Frame.ofBytes? data with
  | none => []
  | some frame =>
      match e.regionsOf? frame with
      | none => []
      | some (src, dst) => e.scene.courses frame (e.policiesFor src dst)

theorem pathFallbacks_process (e : Engine) (receiver : ConnectPoint) (data : Bytes) :
    (e.process receiver data).2.counters.pathFallbacks =
      e.counters.pathFallbacks + Course.refused (e.coursesOf data) := by
  rcases e.process_cases receiver data with ⟨hframe, answer⟩ |
    ⟨frame, hframe, hregions, answer⟩ | ⟨frame, src, dst, hframe, hregions, answer⟩
  · rw [answer]
    simp only [coursesOf, hframe]
    rfl
  · rw [answer]
    simp only [coursesOf, hframe, hregions]
    exact (untouched_classify (e := e.counting) receiver hregions).fallbacks
  · rw [answer]
    simp only [coursesOf, hframe, hregions]
    exact pathFallbacks_dispatch e.counting frame src dst

/-! ## Runs -/

def coursesIn (e : Engine) : Operation → List Course
  | .process _ data => e.coursesOf data
  | _ => []

def courses (e : Engine) : List Operation → List Course
  | [] => []
  | op :: ops => e.coursesIn op ++ courses (e.perform op) ops

theorem pathFallbacks_perform (e : Engine) (op : Operation) :
    (e.perform op).counters.pathFallbacks =
      e.counters.pathFallbacks + Course.refused (e.coursesIn op) := by
  cases op with
  | process receiver data => exact pathFallbacks_process e receiver data
  | create build | transition id state | remove id | addLink link | removeLink link
  | addHost host | removeHost id => rfl

theorem pathFallbacks_performAll (e : Engine) (ops : List Operation) :
    (e.performAll ops).counters.pathFallbacks =
      e.counters.pathFallbacks + Course.refused (e.courses ops) := by
  induction ops generalizing e with
  | nil => rfl
  | cons op ops ih =>
      rw [performAll_cons, ih, pathFallbacks_perform, courses, Course.refused_append,
        Nat.add_assoc]

/--
A route that reports rules has written them along the links of its course.  It says that the
constraint was met exactly if the course honours the partial path or is unchecked.  Over a run the
count of fallbacks grows by the other courses, which are all that do not honour their partial path
exactly if every unchecked one does.  A 64-bit counter shows the same count below `2 ^ 64`.
-/
theorem fallbacks_count_refused_courses (scene : Scene) (class_ : RouteClass) (policy : Policy)
    (frame : Frame) (e : Engine) (ops : List Operation) :
    (∀ n met, (scene.route class_ policy frame).1 = .installed n met →
      ∃ ends links, scene.ends? class_ policy frame = some ends ∧
        scene.course? class_ policy frame = some ⟨policy, links⟩ ∧
        scene.graph.IsShortest ends.dst.location.device ends.src.location.device links ∧
        (scene.route class_ policy frame).2.register = scene.register.installAll
          ((scene.hopsAlong class_ policy ends links).map fun hop => ⟨policy.id, hop.rule⟩) ∧
        (met = true ↔
          (⟨policy, links⟩ : Course).Honoured ∨ (⟨policy, links⟩ : Course).Unchecked)) ∧
    let after := e.performAll ops
    after.counters.pathFallbacks = e.counters.pathFallbacks +
      (e.courses ops).countP (fun course => ¬ (course.Honoured ∨ course.Unchecked)) ∧
    (after.counters.pathFallbacks = e.counters.pathFallbacks +
        (e.courses ops).countP (fun course => ¬ course.Honoured) ↔
      ∀ course ∈ e.courses ops, course.Unchecked → course.Honoured) := by
  constructor
  · intro n met installed
    obtain ⟨-, ends, links, hends, hchosen, -, register⟩ := Scene.exists_of_installed installed
    exact ⟨ends, links, hends, Scene.course?_of_installed installed hends hchosen,
      Scene.isShortest_of_chosen hchosen, register, Scene.met_iff_of_chosen hchosen⟩
  · intro after
    have counted : after.counters.pathFallbacks =
        e.counters.pathFallbacks + Course.refused (e.courses ops) := pathFallbacks_performAll e ops
    refine ⟨counted, ?_⟩
    rw [counted, Course.countP_not_honoured, ← Nat.add_assoc, Nat.left_eq_add, List.countP_eq_zero]
    simp

end Engine

def steeredPolicy : Policy := { eastboundPolicy with partialPath := [⟨"d", 1⟩] }

def chancePolicy : Policy := { steeredPolicy with id := 1, preference := .random }

def nearHost : Host := .untagged ⟨2, 0, 0, 0, 0, 3⟩ [⟨10, 0, 1, 3⟩] ⟨"a", 3⟩

def nearFrame : Frame :=
  { eastboundFrame with
    payload := .ipv4 ⟨⟨10, 0, 0, 1⟩, ⟨10, 0, 1, 3⟩, IpProtocol.tcp, 0, .tcp 40000 80⟩ }

def steeredScene : Scene :=
  { lineScene with
    directory := lineDirectory.add nearHost
    register := (Register.empty.add steeredPolicy).add chancePolicy }

example : (steeredScene.route .inter steeredPolicy eastboundFrame).1 = .installed 3 false := by
  decide +kernel

/-- By chance, and on a single device, the constraint is said to be met and is not. -/
theorem unchecked_courses_do_not_honour :
    (steeredScene.route .inter chancePolicy eastboundFrame).1 = .installed 3 true ∧
    (steeredScene.course? .inter chancePolicy eastboundFrame).any (¬ ·.Honoured) = true ∧
    (steeredScene.route .inter steeredPolicy nearFrame).1 = .installed 1 true ∧
    (steeredScene.course? .inter steeredPolicy nearFrame).any (¬ ·.Honoured) = true := by
  decide +kernel

end PolicyRouting
