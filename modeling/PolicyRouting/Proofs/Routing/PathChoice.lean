import Mathlib.Data.List.Forall2
import Mathlib.Data.List.GetD
import PolicyRouting.Proofs.Routing.PathConstraint

/-!
# Questions to the chooser

A question gives the candidates, the required connect points and a preference.
Unless chance decides, the answer is the first candidate that honours the
required points, or the last candidate where none does, and which of the other
preferences was given makes no difference.  Every question is counted once, by
the kind of its answer.
-/

namespace PolicyRouting

def Path.Honours (path : Path) (required : List ConnectPoint) : Prop :=
  ∀ point ∈ required, ∃ link ∈ path.links, point = link.src ∨ point = link.dst

structure Question where
  preference : PathPreference
  candidates : List Path
  required : List ConnectPoint

namespace Question

/-- What a choice has to be; where chance decides, no more than one of the candidates. -/
structure Fits (question : Question) (choice : Choice) : Prop where
  member : choice.path ∈ question.candidates
  satisfied_iff : question.preference ≠ .random →
    (choice.kind = .satisfied ↔ ∃ path ∈ question.candidates, path.Honours question.required)
  first : question.preference ≠ .random → choice.kind = .satisfied →
    ∃ before after, question.candidates = before ++ choice.path :: after ∧
      choice.path.Honours question.required ∧
      ∀ other ∈ before, ¬ other.Honours question.required
  last : question.preference ≠ .random → choice.kind ≠ .satisfied →
    choice.kind = .fallback ∧ question.candidates.getLast? = some choice.path

/-- There is a choice where there are candidates, and it fits. -/
def SettledBy (question : Question) (answer : Option Choice) : Prop :=
  (answer = none ↔ question.candidates = []) ∧ ∀ choice, answer = some choice → question.Fits choice

end Question

section Constrained

variable {required required' : List ConnectPoint} {first : Path} {others : List Path}

theorem constrainedChoice_cases (required : List ConnectPoint) (first : Path)
    (others : List Path) :
    (∃ before path after, first :: others = before ++ path :: after ∧ path.Honours required ∧
      (∀ other ∈ before, ¬ other.Honours required) ∧
      constrainedChoice required first others = ⟨path, .satisfied⟩) ∨
    (∀ other ∈ first :: others, ¬ other.Honours required) ∧
      ∃ path, (first :: others).getLast? = some path ∧
        constrainedChoice required first others = ⟨path, .fallback⟩ := by
  unfold constrainedChoice
  cases found : (first :: others).find? fun path => path.visits required with
  | some path =>
      obtain ⟨visits, before, after, split, misses⟩ := List.find?_eq_some_iff_append.1 found
      refine .inl ⟨before, path, after, split, Path.visits_iff.1 visits, ?_, rfl⟩
      intro other hother honours
      have := misses other hother
      rw [Path.visits_iff.2 honours] at this
      contradiction
  | none =>
      refine .inr ⟨fun other hother honours => ?_, _, List.getLast?_eq_some_getLast _, rfl⟩
      exact List.find?_eq_none.1 found other hother (Path.visits_iff.2 honours)

theorem fits_constrainedChoice (preference : PathPreference) :
    (Question.mk preference (first :: others) required).Fits
      (constrainedChoice required first others) := by
  rcases constrainedChoice_cases required first others with
    ⟨before, path, after, split, honours, misses, choice⟩ | ⟨misses, path, last, choice⟩
  · have mem : path ∈ first :: others := by simp [split]
    rw [choice]
    exact
      { member := mem
        satisfied_iff := fun _ => iff_of_true rfl ⟨path, mem, honours⟩
        first := fun _ _ => ⟨before, after, split, honours, misses⟩
        last := fun _ other => absurd rfl other }
  · rw [choice]
    exact
      { member := List.mem_of_getLast? last
        satisfied_iff := fun _ => iff_of_false nofun fun ⟨other, mem, honours⟩ =>
          misses other mem honours
        first := fun _ satisfied => absurd satisfied nofun
        last := fun _ _ => ⟨rfl, last⟩ }

theorem fits_randomChoice (number : Nat) :
    (Question.mk .random (first :: others) required).Fits (randomChoice number first others) where
  member := by
    have inside : number % (others.length + 1) < (first :: others).length :=
      Nat.mod_lt _ (Nat.succ_pos _)
    simp only [randomChoice, List.getD_eq_getElem _ _ inside]
    exact List.getElem_mem inside
  satisfied_iff fixed := absurd rfl fixed
  first fixed := absurd rfl fixed
  last fixed := absurd rfl fixed

end Constrained

namespace Chooser

variable {chooser : Chooser}

def ask (chooser : Chooser) (question : Question) : Option Choice × Chooser :=
  chooser.choose question.preference question.candidates question.required

def askAll (chooser : Chooser) : List Question → List (Option Choice) × Chooser
  | [] => ([], chooser)
  | question :: rest =>
      ((chooser.ask question).1 :: ((chooser.ask question).2.askAll rest).1,
        ((chooser.ask question).2.askAll rest).2)

theorem settledBy_ask (chooser : Chooser) (question : Question) :
    question.SettledBy (chooser.ask question).1 := by
  obtain ⟨preference, candidates, required⟩ := question
  cases candidates with
  | nil => exact ⟨iff_of_true rfl rfl, nofun⟩
  | cons first others =>
      cases preference with
      | random =>
          refine ⟨iff_of_false nofun nofun, fun choice h => ?_⟩
          obtain rfl := Option.some.inj h
          exact fits_randomChoice _
      | equalCost | bestPossible | onDemand =>
          refine ⟨iff_of_false nofun nofun, fun choice h => ?_⟩
          obtain rfl := Option.some.inj h
          exact fits_constrainedChoice _

theorem counts_ask (chooser : Chooser) (question : Question) :
    (chooser.ask question).2.counts =
      chooser.counts.noted ((chooser.ask question).1.map (·.kind)) := by
  obtain ⟨preference, candidates, required⟩ := question
  cases candidates with
  | nil => rfl
  | cons first others => cases preference <;> rfl

end Chooser

/-! ## Counts -/

/-- As many questions were counted as were asked, each that was answered under one kind. -/
structure ChoiceCounts.Balanced (counts : ChoiceCounts) (asked : Nat) : Prop where
  asked : counts.selections + counts.empty = asked
  kinds : counts.selections = counts.random + counts.satisfied + counts.fallbacks

theorem ChoiceCounts.Balanced.noted {counts : ChoiceCounts} {asked : Nat}
    (balanced : counts.Balanced asked) (kind : Option ChoiceKind) :
    (counts.noted kind).Balanced (asked + 1) := by
  obtain ⟨total, kinds⟩ := balanced
  cases kind with
  | none => exact ⟨by simp only [ChoiceCounts.noted]; omega, kinds⟩
  | some kind => cases kind <;> constructor <;> simp only [ChoiceCounts.noted] <;> omega

theorem Chooser.askAll_spec (chooser : Chooser) {asked : Nat}
    (balanced : chooser.counts.Balanced asked) (questions : List Question) :
    List.Forall₂ Question.SettledBy questions (chooser.askAll questions).1 ∧
      (chooser.askAll questions).2.counts.Balanced (asked + questions.length) := by
  induction questions generalizing chooser asked with
  | nil => exact ⟨.nil, balanced⟩
  | cons question rest ih =>
      have next : (chooser.ask question).2.counts.Balanced (asked + 1) := by
        rw [chooser.counts_ask]
        exact balanced.noted _
      obtain ⟨settled, counted⟩ := ih _ next
      refine ⟨.cons (chooser.settledBy_ask question) settled, ?_⟩
      rw [List.length_cons, Nat.add_comm rest.length, ← Nat.add_assoc]
      exact counted

theorem Path.visits_congr {required required' : List ConnectPoint}
    (same : ∀ point, point ∈ required ↔ point ∈ required') (path : Path) :
    path.visits required = path.visits required' := by
  rw [Bool.eq_iff_iff, visits_iff, visits_iff]
  simp only [same]

theorem Chooser.choose_congr {required required' : List ConnectPoint}
    (same : ∀ point, point ∈ required ↔ point ∈ required') (chooser : Chooser)
    (preference : PathPreference) (candidates : List Path) :
    chooser.choose preference candidates required =
      chooser.choose preference candidates required' := by
  cases candidates with
  | nil => rfl
  | cons first others =>
      have constrained : constrainedChoice required first others =
          constrainedChoice required' first others := by
        simp only [constrainedChoice, Path.visits_congr same]
      cases preference with
      | random => rfl
      | equalCost | bestPossible | onDemand => simp only [choose, constrained]

theorem Chooser.choose_of_fixed {preference preference' : PathPreference}
    (fixed : preference ≠ .random) (fixed' : preference' ≠ .random) (chooser : Chooser)
    (candidates : List Path) (required : List ConnectPoint) :
    chooser.choose preference candidates required =
      chooser.choose preference' candidates required := by
  cases candidates with
  | nil => rfl
  | cons first others => cases preference <;> cases preference' <;> first | rfl | contradiction

/--
Whatever chance gives, a chooser that was never asked settles question after question, and counts
each of them once and under the kind of its answer.  The preferences that leave nothing to chance
are answered alike, and neither order nor repetition of the required points matters, for a path
that may qualify or for the answer.  The counts are those of 64-bit counters for fewer than `2 ^ 64`
questions.
-/
theorem questions_settled_and_counted :
    (∀ (chance : Nat → Nat) (questions : List Question),
      let after := ({ chance } : Chooser).askAll questions
      List.Forall₂ Question.SettledBy questions after.1 ∧
        after.2.counts.selections + after.2.counts.empty = questions.length ∧
        after.2.counts.selections =
          after.2.counts.random + after.2.counts.satisfied + after.2.counts.fallbacks) ∧
    (∀ (chooser : Chooser) preference preference' candidates required,
      preference ≠ .random → preference' ≠ .random →
      chooser.choose preference candidates required =
        chooser.choose preference' candidates required) ∧
    ∀ (required required' : List ConnectPoint), (∀ point, point ∈ required ↔ point ∈ required') →
      (∀ path : Path, path.visits required = path.visits required') ∧
      ∀ (chooser : Chooser) preference candidates,
        chooser.choose preference candidates required =
          chooser.choose preference candidates required' := by
  refine ⟨fun chance questions => ?_, fun chooser _ _ candidates required fixed fixed' =>
    chooser.choose_of_fixed fixed fixed' candidates required, fun required required' same =>
    ⟨Path.visits_congr same, Chooser.choose_congr same⟩⟩
  have unused : ChoiceCounts.Balanced {} 0 := ⟨rfl, rfl⟩
  obtain ⟨settled, total, kinds⟩ := Chooser.askAll_spec { chance } unused questions
  exact ⟨settled, total.trans (Nat.zero_add _), kinds⟩

def pathThrough (device : String) : Path :=
  .ofLinks [⟨⟨"a", 2⟩, ⟨device, 1⟩⟩, ⟨⟨device, 2⟩, ⟨"c", 1⟩⟩]

theorem points_asked_for_twice :
    (({} : Chooser).choose .onDemand [pathThrough "b", pathThrough "d"]
        [⟨"d", 1⟩, ⟨"a", 2⟩]).1 = some ⟨pathThrough "d", .satisfied⟩ ∧
      ({} : Chooser).choose .onDemand [pathThrough "b", pathThrough "d"] [⟨"d", 1⟩, ⟨"a", 2⟩] =
        ({} : Chooser).choose .equalCost [pathThrough "b", pathThrough "d"]
          [⟨"a", 2⟩, ⟨"d", 1⟩, ⟨"a", 2⟩] := by
  have same : ∀ point : ConnectPoint,
      point ∈ [⟨"d", 1⟩, ⟨"a", 2⟩] ↔ point ∈ [⟨"a", 2⟩, ⟨"d", 1⟩, ⟨"a", 2⟩] := by
    intro point
    simp only [List.mem_cons, List.not_mem_nil, or_false]
    tauto
  obtain ⟨-, alike, order⟩ := questions_settled_and_counted
  refine ⟨by decide, (alike _ .onDemand .equalCost _ _ nofun nofun).trans ?_⟩
  exact (order _ _ same).2 _ .equalCost _

end PolicyRouting
