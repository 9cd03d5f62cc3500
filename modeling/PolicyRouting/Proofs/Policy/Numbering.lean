import Mathlib.Data.List.Perm.Subperm
import Mathlib.Order.Bounds.Defs
import PolicyRouting.Proofs.Policy.Operations

/-!
# Free policy numbers

Among ascending ids, once a place holds a greater number than its own all later
places do, so halving finds the place where that begins, and its number is the
smallest one that is absent.  So the next id is the least of the free ones, as
long as one of them is free, and a policy is created under the least id that is
neither current nor pending, beside all policies that were there before.
-/

namespace PolicyRouting

theorem exists_le_length_not_mem (used : List Nat) : ∃ n ≤ used.length, n ∉ used := by
  refine Classical.byContradiction fun none => ?_
  -- else the list would hold one number more than it is long
  have all : List.range (used.length + 1) ⊆ used := by
    intro n hn
    have hle : n ≤ used.length := Nat.le_of_lt_succ (List.mem_range.1 hn)
    exact Classical.byContradiction fun h => none ⟨n, hle, h⟩
  have := (List.subperm_of_subset List.nodup_range all).length_le
  rw [List.length_range] at this
  omega

namespace PolicyId

variable {used : List PolicyId} {free : PolicyId}

theorem exists_free (h : used.length < UInt32.size) : ∃ free, free ∉ used := by
  obtain ⟨n, hn, absent⟩ := exists_le_length_not_mem (used.map UInt32.toNat)
  rw [List.length_map] at hn
  have small : n < UInt32.size := Nat.lt_of_le_of_lt hn h
  refine ⟨UInt32.ofNat n, fun hmem => absent (List.mem_map.2 ⟨_, hmem, ?_⟩)⟩
  rw [UInt32.toNat_ofNat', Nat.mod_eq_of_lt small]

theorem mem_keys_foldl_insert {id : PolicyId} (table : Keyed PolicyId Unit)
    (ids : List PolicyId) :
    id ∈ (ids.foldl (fun table id => table.insert id ()) table).keys ↔
      id ∈ ids ∨ id ∈ table.keys := by
  induction ids generalizing table with
  | nil => simp
  | cons first rest ih =>
      rw [List.foldl_cons, ih, ← Keyed.contains_iff, Keyed.contains_insert, Keyed.contains_iff,
        List.mem_cons]
      grind

theorem mem_ascending {id : PolicyId} : id ∈ ascending used ↔ id ∈ used := by
  simp only [ascending, List.mem_toArray, mem_keys_foldl_insert]
  simp [Keyed.keys, Keyed.empty]

theorem ascends_ascending (used : List PolicyId) :
    (ascending used).toList.Pairwise fun id other => id.toNat < other.toNat := by
  rw [ascending, List.toList_toArray, Keyed.keys, List.pairwise_map]
  exact Keyed.ordered _

/-! ## Halving -/

/-- Places in front of `lo` hold their own numbers, and places from `hi` on hold greater ones. -/
structure Straddles (ids : Array PolicyId) (lo hi : Nat) : Prop where
  le : lo ≤ hi
  inside : hi ≤ ids.size
  below : ∀ i (h : i < ids.size), i < lo → ids[i].toNat = i
  above : ∀ i (h : i < ids.size), hi ≤ i → i < ids[i].toNat

section Halving

variable {ids : Array PolicyId}
  (ascends : ids.toList.Pairwise fun id other => id.toNat < other.toNat)

include ascends

theorem toNat_add_le {i j : Nat} (hij : i ≤ j) (hj : j < ids.size) :
    ids[i].toNat + (j - i) ≤ ids[j].toNat := by
  induction j with
  | zero =>
      obtain rfl : i = 0 := Nat.le_zero.1 hij
      exact Nat.le_refl _
  | succ j ih =>
      rcases Nat.lt_or_eq_of_le hij with hlt | rfl
      · have earlier := ih (Nat.le_of_lt_succ hlt) (Nat.lt_of_succ_lt hj)
        have step : ids[j].toNat < ids[j + 1].toNat :=
          List.pairwise_iff_getElem.1 ascends j (j + 1) (Nat.lt_of_succ_lt hj) hj
            (Nat.lt_succ_self j)
        omega
      · omega

theorem le_toNat {i : Nat} (h : i < ids.size) : i ≤ ids[i].toNat := by
  have := toNat_add_le ascends (Nat.zero_le i) h
  omega

theorem Straddles.upper {lo hi middle : Nat} (straddles : Straddles ids lo hi) (hhi : middle < hi)
    (inside : middle < ids.size) (own : ids[middle].toNat = middle) :
    Straddles ids (middle + 1) hi := by
  refine ⟨hhi, straddles.inside, fun i h hi => ?_, straddles.above⟩
  have grows := toNat_add_le ascends (Nat.le_of_lt_succ hi) inside
  have := le_toNat ascends h
  omega

theorem Straddles.lower {lo hi middle : Nat} (straddles : Straddles ids lo hi) (hlo : lo ≤ middle)
    (inside : middle < ids.size) (other : ids[middle].toNat ≠ middle) :
    Straddles ids lo middle := by
  refine ⟨hlo, Nat.le_of_lt inside, straddles.below, fun i h hi => ?_⟩
  have grows := toNat_add_le ascends hi h
  have := le_toNat ascends inside
  omega

/-- Either half keeps the gap straddled, until the window is empty. -/
theorem straddles_firstGap {lo hi : Nat} (inside : hi ≤ ids.size)
    (straddles : Straddles ids lo hi) :
    Straddles ids (firstGap ids lo hi inside) (firstGap ids lo hi inside) := by
  fun_induction firstGap ids lo hi inside with
  | case1 lo hi inside nonempty middle own ih =>
      exact ih (straddles.upper ascends (by omega) (by omega) own)
  | case2 lo hi inside nonempty middle other ih =>
      exact ih (straddles.lower ascends (by omega) (by omega) other)
  | case3 lo hi inside closed =>
      obtain rfl : lo = hi := Nat.le_antisymm straddles.le (Nat.le_of_not_lt closed)
      exact straddles

end Halving

theorem straddles_gap (used : List PolicyId) : Straddles (ascending used) (gap used) (gap used) :=
  straddles_firstGap (ascends_ascending used) (Nat.le_refl _)
    { le := Nat.zero_le _
      inside := Nat.le_refl _
      below := fun _ _ h => absurd h (Nat.not_lt_zero _)
      above := fun _ h hle => absurd h (Nat.not_lt_of_le hle) }

theorem mem_of_lt_gap {id : PolicyId} (h : id.toNat < gap used) : id ∈ used := by
  have straddles := straddles_gap used
  have inside : id.toNat < (ascending used).size := Nat.lt_of_lt_of_le h straddles.inside
  have own : (ascending used)[id.toNat] = id :=
    UInt32.toNat_inj.1 (straddles.below id.toNat inside h)
  rw [← mem_ascending, ← own]
  exact Array.getElem_mem inside

theorem not_mem_of_toNat_eq_gap {id : PolicyId} (h : id.toNat = gap used) : id ∉ used := by
  intro hmem
  obtain ⟨i, inside, rfl⟩ := Array.mem_iff_getElem.1 (mem_ascending.2 hmem)
  have straddles := straddles_gap used
  rcases Nat.lt_or_ge i (gap used) with below | above
  · have := straddles.below i inside below
    omega
  · have := straddles.above i inside above
    omega

theorem toNat_next (h : free ∉ used) : (next used).toNat = gap used := by
  have bound : gap used ≤ free.toNat := Nat.le_of_not_lt fun hlt => h (mem_of_lt_gap hlt)
  have small : gap used < UInt32.size := Nat.lt_of_le_of_lt bound free.toNat_lt
  rw [next, UInt32.toNat_ofNat']
  exact Nat.mod_eq_of_lt small

theorem isLeast_next (h : free ∉ used) : IsLeast {id | id ∉ used} (next used) := by
  have number := toNat_next h
  refine ⟨not_mem_of_toNat_eq_gap number, fun other absent => UInt32.le_iff_toNat_le.2 ?_⟩
  rw [number]
  exact Nat.le_of_not_lt fun hlt => absent (mem_of_lt_gap hlt)

theorem next_not_mem (h : free ∉ used) : next used ∉ used := (isLeast_next h).1

end PolicyId

namespace Register

variable {r : Register}

def Free (r : Register) (id : PolicyId) : Prop :=
  r.current.contains id = false ∧ r.pending.contains id = false

theorem free_iff {id : PolicyId} : r.Free id ↔ id ∉ r.idsInUse := by
  rw [Free, idsInUse, List.mem_append, ← Keyed.contains_iff, ← Keyed.contains_iff, not_or,
    Bool.not_eq_true, Bool.not_eq_true]

theorem isLeast_free {free : PolicyId} (h : r.Free free) :
    IsLeast {id | r.Free id} (PolicyId.next r.idsInUse) := by
  simp only [free_iff] at h ⊢
  exact PolicyId.isLeast_next h

theorem create_of_built {build : PolicyId → Except Fault Policy} {built : Policy}
    (h : build (PolicyId.next r.idsInUse) = .ok built) :
    ∃ r', r.create build = .ok (built.withId (PolicyId.next r.idsInUse), r') := by
  simp only [create, h]
  exact ⟨_, rfl⟩

/--
The next id is the least that a list leaves free, in whatever order the list is and however often
it has an id.  A policy is created under the least id that is neither current nor pending, whatever
id it was built with, as soon as it can be built for that id; and every other policy stays, current
or pending.
-/
theorem created_under_least_free_id :
    (∀ used : List PolicyId, (∃ free, free ∉ used) →
      IsLeast {id | id ∉ used} (PolicyId.next used)) ∧
    ∀ (r : Register) (build : PolicyId → Except Fault Policy), (∃ free, r.Free free) →
      ∃ id, IsLeast {id | r.Free id} id ∧
        (∀ built, build id = .ok built → ∃ r', r.create build = .ok (built.withId id, r')) ∧
        ∀ policy r', r.create build = .ok (policy, r') →
          policy.id = id ∧ (∃ built, build id = .ok built ∧ policy = built.withId id) ∧
            r'.current.get? id = some policy ∧
            (∀ other, other ≠ id → r'.current.get? other = r.current.get? other) ∧
            r'.pending = r.pending := by
  constructor
  · rintro used ⟨free, hfree⟩
    exact PolicyId.isLeast_next hfree
  · rintro r build ⟨free, hfree⟩
    refine ⟨PolicyId.next r.idsInUse, isLeast_free hfree, fun _ => create_of_built, ?_⟩
    intro policy r' h
    obtain ⟨built, hbuilt, rfl, rfl⟩ := create_eq_ok h
    refine ⟨rfl, ⟨built, hbuilt, rfl⟩, ?_, fun other apart => ?_, rfl⟩
    · exact (Keyed.get?_insert _ _ _ _).trans (if_pos rfl)
    · refine (Keyed.get?_insert _ _ _ _).trans (if_neg ?_)
      exact fun same => apart (rank_inj.1 same).symm

def crowdedCampus : List Operation :=
  [.add (campusPolicy.withId 5), .add campusPolicy, .park (campusPolicy.withId 1)]

theorem crowdedCampus_gap_taken :
    IsLeast {id | id ∉ [5, 0, 2, 1, 2]} (PolicyId.next [5, 0, 2, 1, 2]) ∧
      PolicyId.next [5, 0, 2, 1, 2] = 3 ∧
    ∃ r', (empty.run crowdedCampus).create (fun _ => .ok (campusPolicy.withId 9)) =
        .ok (campusPolicy.withId 2, r') ∧
      r'.current.get? 5 = some (campusPolicy.withId 5) ∧
      r'.pending.get? 1 = some (campusPolicy.withId 1) := by
  have least := created_under_least_free_id.1 [5, 0, 2, 1, 2] ⟨3, by decide⟩
  refine ⟨least, by decide, ?_⟩
  obtain ⟨id, -, created, frame⟩ := created_under_least_free_id.2 (empty.run crowdedCampus)
    (fun _ => .ok (campusPolicy.withId 9)) ⟨2, by decide, by decide⟩
  obtain ⟨r', h⟩ := created (campusPolicy.withId 9) rfl
  obtain ⟨-, -, -, current, pending⟩ := frame _ r' h
  obtain rfl : id = 2 := by
    have second : ((empty.run crowdedCampus).create fun _ =>
        .ok (campusPolicy.withId 9)).toOption.map (·.1.id) = some 2 := by decide
    rw [h] at second
    exact Option.some.inj second
  refine ⟨r', h, ?_, ?_⟩
  · rw [current 5 (by decide)]
    decide
  · rw [pending]
    decide

end Register

end PolicyRouting
