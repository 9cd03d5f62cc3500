import Mathlib.Data.List.Basic
import Mathlib.Data.List.Pairwise
import Mathlib.Order.Fin.Basic
import PolicyRouting.Rule.Criterion

/-!
# One criterion of a kind

A selector is made by adding criteria one by one, and what is added replaces an
earlier criterion of its kind.  So a criterion stays just where none of its kind
comes later: the selector is the list filtered from its end, and the laws of
that filter say what a selector holds, in which order, and that adding it again
changes nothing.
-/

namespace PolicyRouting

namespace Criterion

def Differs (c d : Criterion) : Prop := c.kind ≠ d.kind

instance : DecidableRel Differs := fun c d => inferInstanceAs (Decidable (c.kind ≠ d.kind))

/-- Filtered from the end: a criterion is kept where it differs from all that are kept after it. -/
def kept (cs : List Criterion) : List Criterion := cs.pwFilter Differs

variable {c : Criterion} {cs : List Criterion}

theorem pairwise_differs_iff : cs.Pairwise Differs ↔ (cs.map kind).Nodup := by
  rw [List.Nodup, List.pairwise_map]
  exact Iff.rfl

theorem nodup_kept (cs : List Criterion) : ((kept cs).map kind).Nodup :=
  pairwise_differs_iff.1 (List.pairwise_pwFilter cs)

theorem kept_of_nodup (h : (cs.map kind).Nodup) : kept cs = cs :=
  List.pwFilter_eq_self.2 (pairwise_differs_iff.2 h)

theorem differs_from_all_iff : (∀ d ∈ cs, c.Differs d) ↔ c.kind ∉ cs.map kind := by
  rw [List.mem_map, not_exists]
  exact forall_congr' fun d => by rw [not_and, Differs, ne_comm]

theorem differs_from_kept_iff : (∀ d ∈ kept cs, c.Differs d) ↔ c.kind ∉ cs.map kind := by
  rw [← differs_from_all_iff]
  refine List.forall_mem_pwFilter (fun {x y z} differs => ?_) c cs
  by_cases same : x.kind = y.kind
  · exact .inr fun other => differs (same.trans other)
  · exact .inl same

theorem kept_cons_of_mem (again : c.kind ∈ cs.map kind) : kept (c :: cs) = kept cs :=
  List.pwFilter_cons_of_neg fun h => differs_from_kept_iff.1 h again

theorem kept_cons_of_notMem (last : c.kind ∉ cs.map kind) : kept (c :: cs) = c :: kept cs :=
  List.pwFilter_cons_of_pos (differs_from_kept_iff.2 last)

theorem mem_kinds_kept_iff {kind : Fin 15} :
    kind ∈ (kept cs).map Criterion.kind ↔ kind ∈ cs.map Criterion.kind := by
  induction cs with
  | nil => exact Iff.rfl
  | cons c cs ih =>
      by_cases again : c.kind ∈ cs.map Criterion.kind
      · rw [kept_cons_of_mem again, ih, List.map_cons, List.mem_cons, or_iff_right_of_imp]
        rintro rfl
        exact again
      · rw [kept_cons_of_notMem again, List.map_cons, List.mem_cons, ih, List.map_cons,
          List.mem_cons]

/-! ## Places -/

/-- None of the kind of the criterion at the place comes later. -/
def IsLastOfKind (cs : List Criterion) (place : Fin cs.length) : Prop :=
  ∀ later, place < later → (cs.get later).kind ≠ (cs.get place).kind

instance (cs : List Criterion) : DecidablePred (IsLastOfKind cs) :=
  fun place => inferInstanceAs
    (Decidable (∀ later, place < later → (cs.get later).kind ≠ (cs.get place).kind))

/-- The places of the last ones of each kind, in ascending order. -/
def lastPlaces (cs : List Criterion) : List (Fin cs.length) :=
  (List.finRange cs.length).filter fun place => IsLastOfKind cs place

theorem isLastOfKind_zero_iff : IsLastOfKind (c :: cs) 0 ↔ c.kind ∉ cs.map kind := by
  rw [← differs_from_all_iff, List.forall_mem_iff_get]
  constructor
  · intro last later
    exact (last later.succ later.succ_pos).symm
  · intro differs later
    refine Fin.cases (fun before => absurd before (Fin.lt_irrefl _)) (fun later _ => ?_) later
    exact (differs later).symm

theorem isLastOfKind_succ_iff {place : Fin cs.length} :
    IsLastOfKind (c :: cs) place.succ ↔ IsLastOfKind cs place := by
  constructor
  · intro last later before
    exact last later.succ (Fin.succ_lt_succ_iff.2 before)
  · intro last later
    refine Fin.cases (fun before => absurd before (Fin.not_lt_zero _)) (fun later before => ?_) later
    exact last later (Fin.succ_lt_succ_iff.1 before)

theorem lastPlaces_cons (c : Criterion) (cs : List Criterion) :
    lastPlaces (c :: cs) =
      (if c.kind ∈ cs.map kind then [] else [0]) ++ (lastPlaces cs).map Fin.succ := by
  have places : List.finRange (c :: cs).length = 0 :: (List.finRange cs.length).map Fin.succ :=
    List.finRange_succ
  have later : ((List.finRange cs.length).map Fin.succ).filter
      (fun place => IsLastOfKind (c :: cs) place) = (lastPlaces cs).map Fin.succ := by
    rw [List.filter_map]
    refine congrArg _ (List.filter_congr fun place _ => ?_)
    exact decide_eq_decide.2 isLastOfKind_succ_iff
  have first : decide (IsLastOfKind (c :: cs) 0) = true ↔ c.kind ∉ cs.map kind := by
    rw [decide_eq_true_eq, isLastOfKind_zero_iff]
  rw [lastPlaces, places, List.filter_cons, later]
  by_cases again : c.kind ∈ cs.map kind
  · rw [if_neg (first.not.2 (not_not_intro again)), if_pos again, List.nil_append]
  · rw [if_pos (first.2 again), if_neg again, List.singleton_append]

theorem kept_eq_map_lastPlaces (cs : List Criterion) : kept cs = (lastPlaces cs).map cs.get := by
  induction cs with
  | nil => rfl
  | cons c cs ih =>
      have later : ((lastPlaces cs).map Fin.succ).map (c :: cs).get = kept cs := by
        rw [List.map_map, ih]
        rfl
      rw [lastPlaces_cons, List.map_append, later]
      split
      case isTrue again => exact kept_cons_of_mem again
      case isFalse last => exact kept_cons_of_notMem last

def lastOf? (cs : List Criterion) (kind : Fin 15) : Option Criterion :=
  cs.reverse.find? fun c => c.kind = kind

theorem lastOf?_cons (c : Criterion) (cs : List Criterion) (kind : Fin 15) :
    lastOf? (c :: cs) kind = (lastOf? cs kind).or (if c.kind = kind then some c else none) := by
  rw [lastOf?, List.reverse_cons, List.find?_append]
  by_cases h : c.kind = kind <;> simp [h, lastOf?]

theorem lastOf?_eq_none_iff {kind : Fin 15} :
    lastOf? cs kind = none ↔ kind ∉ cs.map Criterion.kind := by
  simp [lastOf?]

theorem mem_kept_iff : c ∈ kept cs ↔ lastOf? cs c.kind = some c := by
  induction cs with
  | nil => exact ⟨fun mem => absurd mem List.not_mem_nil, fun found => nomatch found⟩
  | cons d cs ih =>
      rw [lastOf?_cons]
      by_cases again : d.kind ∈ cs.map kind
      · rw [kept_cons_of_mem again, ih]
        by_cases same : d.kind = c.kind
        · -- a later one of the kind is found first
          have later : lastOf? cs c.kind ≠ none :=
            fun none => lastOf?_eq_none_iff.1 none (same ▸ again)
          obtain ⟨last, found⟩ := Option.ne_none_iff_exists'.1 later
          rw [found, Option.some_or]
        · rw [if_neg same, Option.or_none]
      · rw [kept_cons_of_notMem again, List.mem_cons, ih]
        by_cases same : d.kind = c.kind
        · have none : lastOf? cs c.kind = none := lastOf?_eq_none_iff.2 (same ▸ again)
          rw [none, if_pos same, Option.none_or, Option.some.injEq, eq_comm]
          exact or_iff_left nofun
        · rw [if_neg same, Option.or_none]
          exact or_iff_right fun equal => same (congrArg kind equal).symm

end Criterion

open Criterion

namespace Selector

variable {cs : List Criterion}

/-! ## Selectors -/

theorem criteria_foldl_add (selector : Selector) (cs : List Criterion) :
    (cs.foldl add selector).criteria =
      selector.criteria.filter (fun old => old.kind ∉ cs.map kind) ++ kept cs := by
  -- each step is taken from another selector, so the statement is about all of them
  induction cs generalizing selector with
  | nil => simp [kept]
  | cons c later ih =>
      have before : (selector.criteria.filter fun old => old.kind ≠ c.kind).filter
            (fun old => old.kind ∉ later.map kind) =
          selector.criteria.filter fun old => old.kind ∉ (c :: later).map kind := by
        rw [List.filter_filter]
        refine List.filter_congr fun old _ => ?_
        rw [← Bool.decide_and, decide_eq_decide, List.map_cons, List.mem_cons, not_or, and_comm]
      have added : [c].filter (fun old => old.kind ∉ later.map kind) ++ kept later =
          kept (c :: later) := by
        by_cases again : c.kind ∈ later.map kind
        · have gone : [c].filter (fun old => old.kind ∉ later.map kind) = [] := by
            simpa using again
          rw [kept_cons_of_mem again, gone, List.nil_append]
        · have stays : [c].filter (fun old => old.kind ∉ later.map kind) = [c] := by
            simpa using again
          rw [kept_cons_of_notMem again, stays, List.singleton_append]
      rw [List.foldl_cons, ih, add, List.filter_append, before, List.append_assoc, added]

theorem criteria_ofList (cs : List Criterion) : (ofList cs).criteria = kept cs :=
  criteria_foldl_add empty cs

theorem ofList_of_nodup (h : (cs.map kind).Nodup) : ofList cs = ⟨cs⟩ :=
  congrArg mk ((criteria_ofList cs).trans (kept_of_nodup h))

/--
Whatever criteria are added one by one, the selector holds the last ones of each kind in the order
in which these were added.  So it holds one of each kind that was added, contains just what was
added last of its kind, and is what its own criteria make when they are added again.
-/
theorem ofList_keeps_last_of_each_kind (cs : List Criterion) :
    (ofList cs).criteria = (lastPlaces cs).map cs.get ∧
    ((ofList cs).criteria.map kind).Nodup ∧
    (∀ kind, kind ∈ (ofList cs).criteria.map Criterion.kind ↔ kind ∈ cs.map Criterion.kind) ∧
    (∀ c, (ofList cs).contains c = true ↔ lastOf? cs c.kind = some c) ∧
    ofList (ofList cs).criteria = ofList cs := by
  have unique : ((ofList cs).criteria.map kind).Nodup := by
    rw [criteria_ofList]
    exact nodup_kept cs
  refine ⟨?_, unique, fun kind => ?_, fun c => ?_, ofList_of_nodup unique⟩
  · rw [criteria_ofList, kept_eq_map_lastPlaces]
  · rw [criteria_ofList, mem_kinds_kept_iff]
  · rw [contains, List.contains_iff_mem, criteria_ofList, mem_kept_iff]

example : (ofList [.tcpDst 80, .ipProto 6, .tcpDst 8080]).criteria = [.ipProto 6, .tcpDst 8080] := by
  decide

end Selector

end PolicyRouting
