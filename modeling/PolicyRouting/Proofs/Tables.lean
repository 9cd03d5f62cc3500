import PolicyRouting.Keyed

/-!
# Tables by their lookups

Two tables in which every key finds the same are the same table, since the
order of the entries is fixed by their keys.  A table whose entries are entered
one after the other is built again, and a function can be applied to all values
of a table, which leaves the keys alone.  What holds of all entries holds after
an entry if it holds of the new one.  Two tables are apart if no key is in both
of them.
-/

namespace PolicyRouting.Keyed

variable {κ α β : Type} [Ranked κ]

open Ranked (rank)

theorem ordered_nodup {entries : List (κ × α)} (ordered : Ordered entries) : entries.Nodup :=
  ordered.imp fun less same => by simp [same] at less

theorem ext_get? {s t : Keyed κ α} (h : ∀ k, s.get? k = t.get? k) : s = t := by
  have members : s.entries.Perm t.entries := by
    rw [List.perm_ext_iff_of_nodup (ordered_nodup s.ordered) (ordered_nodup t.ordered)]
    rintro ⟨k, v⟩
    rw [mem_entries_iff, mem_entries_iff, h]
  exact ext (members.eq_of_pairwise (fun _ _ _ _ less greater => by omega) s.ordered t.ordered)

theorem insert_eq_self {t : Keyed κ α} {k : κ} {v : α} (h : t.get? k = some v) :
    t.insert k v = t := by
  refine ext_get? fun k' => ?_
  rw [get?_insert]
  split
  · rename_i same
    rw [← rank_inj.1 same, h]
  · rfl

theorem erase_eq_self {t : Keyed κ α} {k : κ} (h : t.get? k = none) : t.erase k = t := by
  refine ext_get? fun k' => ?_
  rw [get?_erase]
  split
  · rename_i same
    rw [← rank_inj.1 same, h]
  · rfl

theorem nodup_keys (t : Keyed κ α) : t.keys.Nodup := by
  rw [keys, List.Nodup, List.pairwise_map]
  exact t.ordered.imp fun less same => by simp [same] at less

theorem insertEntry_eq_append {entries : List (κ × α)} {k : κ} (v : α)
    (greatest : ∀ e ∈ entries, rank e.1 < rank k) :
    insertEntry k v entries = entries ++ [(k, v)] := by
  induction entries with
  | nil => rfl
  | cons head rest ih =>
      have first := greatest head List.mem_cons_self
      have others := ih fun e h => greatest e (List.mem_cons_of_mem _ h)
      obtain ⟨key, value⟩ := head
      simp only at first
      rw [insertEntry, if_neg (by omega), if_pos first, others, List.cons_append]

theorem entries_foldl_insert (t : Keyed κ α) {entries : List (κ × α)}
    (ordered : Ordered (t.entries ++ entries)) :
    (entries.foldl (fun t e => t.insert e.1 e.2) t).entries = t.entries ++ entries := by
  induction entries generalizing t with
  | nil => simp
  | cons e rest ih =>
      have last : ∀ other ∈ t.entries, rank other.1 < rank e.1 := fun other h =>
        (List.pairwise_append.1 ordered).2.2 other h e List.mem_cons_self
      have entered : (t.insert e.1 e.2).entries = t.entries ++ [e] :=
        insertEntry_eq_append e.2 last
      rw [List.foldl_cons, ih (t.insert e.1 e.2) (by simpa [entered] using ordered), entered,
        List.append_assoc, List.singleton_append]

theorem foldl_insert_entries (t : Keyed κ α) :
    t.entries.foldl (fun s e => s.insert e.1 e.2) empty = t :=
  ext (entries_foldl_insert empty t.ordered)

section Forall

variable {t : Keyed κ α} {P : κ → α → Prop}

theorem forall_insert (all : ∀ k v, t.get? k = some v → P k v) {key : κ} {value : α}
    (new : P key value) : ∀ k v, (t.insert key value).get? k = some v → P k v := by
  intro k v h
  rw [get?_insert] at h
  split at h
  · obtain rfl : key = k := rank_inj.1 ‹_›
    obtain rfl := Option.some.inj h
    exact new
  · exact all k v h

theorem forall_erase (all : ∀ k v, t.get? k = some v → P k v) (key : κ) :
    ∀ k v, (t.erase key).get? k = some v → P k v := by
  intro k v h
  rw [get?_erase] at h
  split at h
  · contradiction
  · exact all k v h

end Forall

def Apart (s : Keyed κ α) (t : Keyed κ β) : Prop :=
  ∀ k, s.contains k = true → t.contains k = false

section Apart

variable {s : Keyed κ α} {t : Keyed κ β} {k : κ}

theorem apart_insert_left_iff (apart : s.Apart t) (v : α) :
    (s.insert k v).Apart t ↔ t.contains k = false := by
  constructor
  · intro after
    exact after k ((contains_insert s k k v).2 (.inl rfl))
  · intro absent k' h
    rcases (contains_insert s k k' v).1 h with rfl | old
    · exact absent
    · exact apart k' old

theorem apart_insert_right_iff (apart : s.Apart t) (v : β) :
    s.Apart (t.insert k v) ↔ s.contains k = false := by
  constructor
  · intro after
    apply Bool.eq_false_iff.2
    intro present
    have absent := Bool.eq_false_iff.1 (after k present)
    exact absent ((contains_insert t k k v).2 (.inl rfl))
  · intro absent k' h
    apply Bool.eq_false_iff.2
    intro both
    rcases (contains_insert t k k' v).1 both with rfl | old
    · rw [absent] at h
      contradiction
    · exact Bool.eq_false_iff.1 (apart k' h) old

theorem Apart.erase_left (apart : s.Apart t) (k : κ) : (s.erase k).Apart t :=
  fun k' h => apart k' ((contains_erase s k k').1 h).2

theorem Apart.move (apart : s.Apart t) (k : κ) (v : α) : (s.insert k v).Apart (t.erase k) := by
  intro k' h
  apply Bool.eq_false_iff.2
  intro left
  obtain ⟨distinct, still⟩ := (contains_erase t k k').1 left
  rcases (contains_insert s k k' v).1 h with same | old
  · exact distinct same
  · exact Bool.eq_false_iff.1 (apart k' old) still

end Apart

def map (f : α → β) (t : Keyed κ α) : Keyed κ β where
  entries := t.entries.map fun e => (e.1, f e.2)
  ordered := by
    rw [Ordered, List.pairwise_map]
    exact t.ordered

variable (f : α → β) (t : Keyed κ α) (k : κ)

@[simp] theorem keys_map : (t.map f).keys = t.keys := by
  simp [keys, map, Function.comp_def]

@[simp] theorem values_map : (t.map f).values = t.values.map f := by
  simp [values, map, Function.comp_def]

@[simp] theorem get?_map : (t.map f).get? k = (t.get? k).map f := by
  simp [get?, map, List.find?_map, Function.comp_def]

@[simp] theorem contains_map : (t.map f).contains k = t.contains k := by
  simp [contains]

@[simp] theorem map_empty : (empty : Keyed κ α).map f = empty := rfl

@[simp] theorem map_insert (v : α) : (t.insert k v).map f = (t.map f).insert k (f v) := by
  refine ext_get? fun k' => ?_
  rw [get?_map, get?_insert, get?_insert, get?_map]
  split <;> rfl

@[simp] theorem map_erase : (t.erase k).map f = (t.map f).erase k := by
  refine ext_get? fun k' => ?_
  rw [get?_map, get?_erase, get?_erase, get?_map]
  split <;> rfl

theorem map_map_of_idem {f : α → α} (idem : ∀ a, f (f a) = f a) : (t.map f).map f = t.map f := by
  refine ext_get? fun k => ?_
  cases h : t.get? k <;> simp [h, idem]

end PolicyRouting.Keyed
