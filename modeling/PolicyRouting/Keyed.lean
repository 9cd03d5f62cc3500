/-!
# Tables ordered by key

A table holds at most one value for each key, in ascending order of the keys'
ranks.  `get?` is its view: `get?_insert` and `get?_erase` say what the two
changes do to it, and nothing else about a table is ever needed.
-/

namespace PolicyRouting

/-- Keys are ordered by a number that tells them apart. -/
class Ranked (κ : Type) where
  rank : κ → Nat
  rank_injective : ∀ {a b : κ}, rank a = rank b → a = b

instance : Ranked Nat := ⟨id, id⟩
instance : Ranked UInt32 := ⟨UInt32.toNat, UInt32.toNat_inj.1⟩
instance : Ranked UInt64 := ⟨UInt64.toNat, UInt64.toNat_inj.1⟩

open Ranked (rank)

@[simp] theorem rank_inj {κ : Type} [Ranked κ] {a b : κ} : rank a = rank b ↔ a = b :=
  ⟨Ranked.rank_injective, congrArg rank⟩

namespace Keyed

variable {κ α : Type} [Ranked κ]

def Ordered (entries : List (κ × α)) : Prop := entries.Pairwise fun x y => rank x.1 < rank y.1

def insertEntry (k : κ) (v : α) : List (κ × α) → List (κ × α)
  | [] => [(k, v)]
  | (k', v') :: rest =>
      if rank k < rank k' then (k, v) :: (k', v') :: rest
      else if rank k' < rank k then (k', v') :: insertEntry k v rest
      else (k, v) :: rest

theorem mem_insertEntry {k : κ} {v : α} {e : κ × α} {entries : List (κ × α)}
    (h : e ∈ insertEntry k v entries) : e = (k, v) ∨ e ∈ entries := by
  induction entries with
  | nil => simpa [insertEntry] using h
  | cons head rest ih =>
      simp only [insertEntry] at h
      split at h
      · simpa using h
      · split at h <;> grind

theorem ordered_insertEntry {entries : List (κ × α)} (h : Ordered entries) (k : κ) (v : α) :
    Ordered (insertEntry k v entries) := by
  induction entries with
  | nil => simp [insertEntry, Ordered]
  | cons head rest ih =>
      obtain ⟨first, others⟩ := List.pairwise_cons.1 h
      simp only [insertEntry]
      split
      · refine List.pairwise_cons.2 ⟨fun e he => ?_, h⟩
        rcases List.mem_cons.1 he with rfl | he
        · assumption
        · have := first e he
          show rank k < rank e.1
          omega
      · split
        · refine List.pairwise_cons.2 ⟨fun e he => ?_, ih others⟩
          rcases mem_insertEntry he with rfl | he
          · assumption
          · exact first e he
        · refine List.pairwise_cons.2 ⟨fun e he => ?_, others⟩
          have := first e he
          simp only; omega

end Keyed

structure Keyed (κ α : Type) [Ranked κ] where
  entries : List (κ × α)
  ordered : Keyed.Ordered entries

namespace Keyed

variable {κ α : Type} [Ranked κ]

def empty : Keyed κ α := ⟨[], List.Pairwise.nil⟩

instance : Inhabited (Keyed κ α) := ⟨empty⟩

instance [DecidableEq κ] [DecidableEq α] : DecidableEq (Keyed κ α) := fun s t =>
  if h : s.entries = t.entries then
    isTrue (by cases s; cases t; cases h; rfl)
  else isFalse fun same => h (by rw [same])

def insert (t : Keyed κ α) (k : κ) (v : α) : Keyed κ α :=
  ⟨insertEntry k v t.entries, ordered_insertEntry t.ordered k v⟩

def erase (t : Keyed κ α) (k : κ) : Keyed κ α :=
  ⟨t.entries.filter fun e => rank e.1 ≠ rank k, t.ordered.filter _⟩

def get? (t : Keyed κ α) (k : κ) : Option α :=
  (t.entries.find? fun e => rank e.1 = rank k).map (·.2)

def contains (t : Keyed κ α) (k : κ) : Bool := (t.get? k).isSome

def getD (t : Keyed κ α) (k : κ) (default : α) : α := (t.get? k).getD default

def keys (t : Keyed κ α) : List κ := t.entries.map (·.1)

def values (t : Keyed κ α) : List α := t.entries.map (·.2)

def size (t : Keyed κ α) : Nat := t.entries.length

/-! ## Laws -/

theorem ext {s t : Keyed κ α} (h : s.entries = t.entries) : s = t := by
  cases s; cases t; cases h; rfl

@[simp] theorem get?_empty (k : κ) : (empty : Keyed κ α).get? k = none := rfl

theorem find?_insertEntry (k k' : κ) (v : α) (entries : List (κ × α)) :
    (insertEntry k v entries).find? (fun e => rank e.1 = rank k') =
      if rank k = rank k' then some (k, v) else entries.find? fun e => rank e.1 = rank k' := by
  induction entries with
  | nil => by_cases h : rank k = rank k' <;> simp [insertEntry, h]
  | cons head rest ih =>
      obtain ⟨key, value⟩ := head
      simp only [insertEntry]
      split
      · by_cases h : rank k = rank k' <;> simp [h]
      · split
        · by_cases hk : rank key = rank k'
          · have : rank k ≠ rank k' := by omega
            simp [hk, this]
          · simp [hk, ih]
        · have hk : rank k = rank key := by omega
          by_cases h : rank k = rank k'
          · simp [h]
          · have : rank key ≠ rank k' := by omega
            simp [h, this]

@[simp] theorem get?_insert (t : Keyed κ α) (k k' : κ) (v : α) :
    (t.insert k v).get? k' = if rank k = rank k' then some v else t.get? k' := by
  simp only [get?, insert, find?_insertEntry]
  split <;> rfl

theorem find?_filter_ne (k k' : κ) (entries : List (κ × α)) :
    (entries.filter fun e => rank e.1 ≠ rank k).find? (fun e => rank e.1 = rank k') =
      if rank k = rank k' then none else entries.find? fun e => rank e.1 = rank k' := by
  induction entries with
  | nil => simp
  | cons head rest ih => grind

@[simp] theorem get?_erase (t : Keyed κ α) (k k' : κ) :
    (t.erase k).get? k' = if rank k = rank k' then none else t.get? k' := by
  simp only [get?, erase, find?_filter_ne]
  split <;> rfl

theorem mem_entries_iff {t : Keyed κ α} {k : κ} {v : α} :
    (k, v) ∈ t.entries ↔ t.get? k = some v := by
  obtain ⟨entries, ordered⟩ := t
  simp only [get?]
  induction entries with
  | nil => simp
  | cons head rest ih =>
      obtain ⟨first, others⟩ := List.pairwise_cons.1 ordered
      obtain ⟨key, value⟩ := head
      by_cases hk : rank key = rank k
      · obtain rfl : key = k := Ranked.rank_injective hk
        have absent : (key, v) ∉ rest := fun h => by
          have := first _ h
          simp at this
        simp [absent, eq_comm]
      · have distinct : k ≠ key := fun h => hk (by rw [h])
        simp [hk, distinct, ih others]

theorem contains_eq_true_iff {t : Keyed κ α} {k : κ} :
    t.contains k = true ↔ ∃ v, t.get? k = some v := by
  rw [contains, Option.isSome_iff_exists]

@[simp] theorem contains_empty (k : κ) : (empty : Keyed κ α).contains k = false := rfl

@[simp] theorem contains_insert (t : Keyed κ α) (k k' : κ) (v : α) :
    (t.insert k v).contains k' = true ↔ k = k' ∨ t.contains k' = true := by
  rw [contains, get?_insert]
  by_cases h : k = k' <;> simp [h, contains]

@[simp] theorem contains_erase (t : Keyed κ α) (k k' : κ) :
    (t.erase k).contains k' = true ↔ k ≠ k' ∧ t.contains k' = true := by
  rw [contains, get?_erase]
  by_cases h : k = k' <;> simp [h, contains]

theorem getD_insert [DecidableEq κ] (t : Keyed κ α) (k k' : κ) (v d : α) :
    (t.insert k v).getD k' d = if k = k' then v else t.getD k' d := by
  rw [getD, get?_insert]
  by_cases h : k = k' <;> simp [h, getD]

theorem getD_erase [DecidableEq κ] (t : Keyed κ α) (k k' : κ) (d : α) :
    (t.erase k).getD k' d = if k = k' then d else t.getD k' d := by
  rw [getD, get?_erase]
  by_cases h : k = k' <;> simp [h, getD]

theorem mem_values_iff {t : Keyed κ α} {v : α} : v ∈ t.values ↔ ∃ k, t.get? k = some v := by
  simp only [values, List.mem_map, ← mem_entries_iff]
  constructor
  · rintro ⟨⟨k, v⟩, h, rfl⟩
    exact ⟨k, h⟩
  · rintro ⟨k, h⟩
    exact ⟨(k, v), h, rfl⟩

theorem length_insertEntry_le (k : κ) (v : α) (entries : List (κ × α)) :
    (insertEntry k v entries).length ≤ entries.length + 1 := by
  induction entries with
  | nil => simp [insertEntry]
  | cons head rest ih =>
      simp only [insertEntry]
      split
      · simp
      · split
        · simpa using ih
        · simp

theorem length_keys_insert_le (t : Keyed κ α) (k : κ) (v : α) :
    (t.insert k v).keys.length ≤ t.keys.length + 1 := by
  simpa [keys, insert] using length_insertEntry_le k v t.entries

theorem length_keys_erase_le (t : Keyed κ α) (k : κ) :
    (t.erase k).keys.length ≤ t.keys.length := by
  simpa [keys, erase] using List.length_filter_le _ t.entries

theorem contains_iff {t : Keyed κ α} {k : κ} : t.contains k = true ↔ k ∈ t.keys := by
  simp only [contains, Option.isSome_iff_exists, keys, List.mem_map]
  constructor
  · rintro ⟨v, h⟩
    exact ⟨(k, v), mem_entries_iff.2 h, rfl⟩
  · rintro ⟨⟨k', v⟩, h, rfl⟩
    exact ⟨v, mem_entries_iff.1 h⟩

end Keyed

end PolicyRouting
