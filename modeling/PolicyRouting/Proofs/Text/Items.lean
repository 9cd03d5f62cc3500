import Mathlib.Data.List.Basic
import Mathlib.Data.List.TakeWhile
import PolicyRouting.Fabric.Point

/-!
# Lists in a text

The items of a text stand between commas, with blanks around them and with
tokens between them that are all blank.  Trimming takes away the blanks and the
blank tokens are dropped, so the items are found as they were, in their order.
They are then read one by one: a list is read where all of its items are, and
the first one that is not gives the fault.
-/

namespace PolicyRouting

namespace Text

section Trimming

variable {cs : List Char} {c : Char}

theorem head_trim (h : c ∈ (trim cs).head?) : isBlank c = false := by
  obtain ⟨rest, trimmed⟩ : ∃ rest, trim cs = c :: rest := List.head?_eq_some_iff.1 h
  -- what is cut off at the end leaves the front as it is
  have front : trim cs <+: trimStart cs := by
    rw [trim, trimEnd, ← List.reverse_suffix, List.reverse_reverse]
    exact List.dropWhile_suffix _
  obtain ⟨behind, start⟩ := front
  have notBlank := List.head?_dropWhile_not isBlank cs
  rw [← trimStart, ← start, trimmed] at notBlank
  simpa using notBlank

theorem last_trim (h : c ∈ (trim cs).getLast?) : isBlank c = false := by
  rw [trim, trimEnd, List.getLast?_reverse] at h
  have notBlank := List.head?_dropWhile_not isBlank (trimStart cs).reverse
  rw [h] at notBlank
  exact notBlank

theorem trim_eq_self_of_ends (head : ∀ c ∈ cs.head?, isBlank c = false)
    (last : ∀ c ∈ cs.getLast?, isBlank c = false) : trim cs = cs := by
  cases cs with
  | nil => rfl
  | cons c cs =>
      rw [trim, trimStart_eq_self (head c rfl)]
      rcases List.eq_nil_or_concat (c :: cs) with empty | ⟨front, d, whole⟩
      · contradiction
      · rw [List.concat_eq_append] at whole
        rw [whole] at last ⊢
        exact trimEnd_concat (last d (by simp))

theorem trim_trim (cs : List Char) : trim (trim cs) = trim cs :=
  trim_eq_self_of_ends (fun _ => head_trim) fun _ => last_trim

theorem exists_blanks_trim (cs : List Char) :
    ∃ before after, (∀ c ∈ before, isBlank c = true) ∧ (∀ c ∈ after, isBlank c = true) ∧
      cs = before ++ trim cs ++ after := by
  refine ⟨cs.takeWhile isBlank, ((trimStart cs).reverse.takeWhile isBlank).reverse,
    fun c h => List.mem_takeWhile_imp h,
    fun c h => List.mem_takeWhile_imp (List.mem_reverse.1 h), ?_⟩
  have ends : trimStart cs = trim cs ++ ((trimStart cs).reverse.takeWhile isBlank).reverse := by
    rw [trim, trimEnd, ← List.reverse_append, List.takeWhile_append_dropWhile,
      List.reverse_reverse]
  rw [List.append_assoc, ← ends, trimStart, List.takeWhile_append_dropWhile]

theorem trim_eq_nil_iff : trim cs = [] ↔ ∀ c ∈ cs, isBlank c = true := by
  constructor
  · intro h
    obtain ⟨before, after, hbefore, hafter, whole⟩ := exists_blanks_trim cs
    rw [whole, h, List.append_nil]
    exact fun c mem => (List.mem_append.1 mem).elim (hbefore c) (hafter c)
  · intro blank
    rw [trim, trimStart, List.dropWhile_eq_nil_iff.2 blank]
    rfl

theorem mem_trim_iff (h : isBlank c = false) : c ∈ trim cs ↔ c ∈ cs := by
  obtain ⟨before, after, hbefore, hafter, whole⟩ := exists_blanks_trim cs
  have notBefore : c ∉ before := fun mem => by simp [hbefore c mem] at h
  have notAfter : c ∉ after := fun mem => by simp [hafter c mem] at h
  rw [iff_comm]
  calc c ∈ cs ↔ c ∈ before ++ trim cs ++ after := by rw [← whole]
    _ ↔ c ∈ trim cs := by simp [notBefore, notAfter]

theorem trim_surrounded {before after : List Char} (hbefore : ∀ c ∈ before, isBlank c = true)
    (hafter : ∀ c ∈ after, isBlank c = true) (trimmed : trim cs = cs) :
    trim (before ++ cs ++ after) = cs := by
  cases cs with
  | nil =>
      rw [trim_eq_nil_iff, List.append_nil]
      exact fun c mem => (List.mem_append.1 mem).elim (hbefore c) (hafter c)
  | cons c cs =>
      have head : isBlank c = false := head_trim (by rw [trimmed]; rfl)
      have start : trimStart (before ++ (c :: cs) ++ after) = c :: cs ++ after := by
        rw [trimStart, List.append_assoc, List.dropWhile_append_of_pos hbefore]
        exact trimStart_eq_self head
      have finish : trimEnd (c :: cs ++ after) = trimEnd (c :: cs) := by
        have blank : ∀ c ∈ after.reverse, isBlank c = true := by simpa using hafter
        rw [trimEnd, trimEnd, List.reverse_append, List.dropWhile_append_of_pos blank]
      calc trim (before ++ (c :: cs) ++ after) = trimEnd (c :: cs) := by rw [trim, start, finish]
        _ = trim (c :: cs) := by rw [trim, trimStart_eq_self head]
        _ = c :: cs := trimmed

end Trimming

section Pieces

variable {sep : Char}

theorem pieces_eq_splitOn (sep : Char) (cs : List Char) : pieces sep cs = cs.splitOn sep := by
  induction cs with
  | nil => rfl
  | cons c cs ih =>
      rw [pieces, List.splitOn_cons_eq_if_modifyHead, ih]
      simp only [beq_iff_eq]
      split
      · rfl
      · cases h : cs.splitOn sep with
        | nil => exact absurd (ih.trans h) (pieces_ne_nil sep cs)
        | cons piece rest => rfl

theorem intercalate_pieces (cs : List Char) : [sep].intercalate (pieces sep cs) = cs := by
  rw [pieces_eq_splitOn, List.intercalate_splitOn]

theorem pieces_intercalate {parts : List (List Char)} (nonempty : parts ≠ [])
    (free : ∀ part ∈ parts, sep ∉ part) : pieces sep ([sep].intercalate parts) = parts := by
  rw [pieces_eq_splitOn, List.splitOn_intercalate sep free nonempty]

theorem mem_pieces_iff {c : Char} (h : c ≠ sep) {cs : List Char} :
    (∃ piece ∈ pieces sep cs, c ∈ piece) ↔ c ∈ cs := by
  induction cs with
  | nil => simp [pieces]
  | cons d cs ih =>
      rw [List.mem_cons, ← ih, pieces]
      split
      · rename_i same
        simp [same, h]
      · cases whole : pieces sep cs with
        | nil => exact absurd whole (pieces_ne_nil sep cs)
        | cons piece rest => simp [or_assoc]

theorem pieces_map {f : Char → Char} (h : ∀ c, f c = sep ↔ c = sep) (cs : List Char) :
    pieces sep (cs.map f) = (pieces sep cs).map (List.map f) := by
  induction cs with
  | nil => rfl
  | cons c cs ih =>
      rw [List.map_cons, pieces, pieces, ih]
      simp only [h]
      split
      · rfl
      · cases pieces sep cs <;> rfl

end Pieces

/-! ## Items between commas -/

/-- What an item has to be for a list of items to be found as it was written. -/
structure IsItem (item : String) : Prop where
  nonempty : item ≠ ""
  trimmed : trim item.toList = item.toList
  free : ',' ∉ item.toList

/-- The tokens are the items, in their order, with blanks around them, and blank tokens. -/
inductive Holds : List (List Char) → List String → Prop
  | nil : Holds [] []
  | blank {token : List Char} {tokens : List (List Char)} {items : List String}
      (blank : ∀ c ∈ token, isBlank c = true) (rest : Holds tokens items) :
      Holds (token :: tokens) items
  | item {before after : List Char} {tokens : List (List Char)} {items : List String}
      (item : String) (blankBefore : ∀ c ∈ before, isBlank c = true)
      (blankAfter : ∀ c ∈ after, isBlank c = true) (rest : Holds tokens items) :
      Holds ((before ++ item.toList ++ after) :: tokens) (item :: items)

def Enumerates (s : String) (items : List String) : Prop :=
  ∃ tokens, s.toList = [','].intercalate tokens ∧ Holds tokens items

theorem isBlank_comma : isBlank ',' = false := by decide

theorem Holds.free {tokens : List (List Char)} {items : List String} (h : Holds tokens items)
    (hitems : ∀ item ∈ items, IsItem item) : ∀ token ∈ tokens, ',' ∉ token := by
  have notBlank {cs : List Char} (blank : ∀ c ∈ cs, isBlank c = true) : ',' ∉ cs := fun mem =>
    absurd (blank ',' mem) (by simp [isBlank_comma])
  induction h with
  | nil => simp
  | blank blank rest ih => exact List.forall_mem_cons.2 ⟨notBlank blank, ih hitems⟩
  | item item blankBefore blankAfter rest ih =>
      obtain ⟨isItem, others⟩ := List.forall_mem_cons.1 hitems
      refine List.forall_mem_cons.2 ⟨?_, ih others⟩
      simp [notBlank blankBefore, notBlank blankAfter, isItem.free]

theorem Holds.filter_trimmed {tokens : List (List Char)} {items : List String}
    (h : Holds tokens items) (hitems : ∀ item ∈ items, IsItem item) :
    (tokens.map fun token => String.ofList (trim token)).filter (· ≠ "") = items := by
  induction h with
  | nil => rfl
  | blank blank rest ih =>
      rw [List.map_cons, trim_eq_nil_iff.2 blank]
      exact ih hitems
  | item item blankBefore blankAfter rest ih =>
      obtain ⟨isItem, others⟩ := List.forall_mem_cons.1 hitems
      have whole := trim_surrounded blankBefore blankAfter isItem.trimmed
      rw [List.map_cons, whole, String.ofList_toList, List.filter_cons_of_pos, ih others]
      simpa using isItem.nonempty

theorem items_of_enumerates {s : String} {names : List String} (h : Enumerates s names)
    (hitems : ∀ name ∈ names, IsItem name) : items s = names := by
  obtain ⟨tokens, whole, holds⟩ := h
  rw [items, whole]
  by_cases empty : tokens = []
  · subst empty
    cases holds
    rfl
  · rw [pieces_intercalate empty (holds.free hitems)]
    exact holds.filter_trimmed hitems

theorem mem_items_iff {s item : String} :
    item ∈ items s ↔ ∃ token ∈ pieces ',' s.toList,
      (∃ c ∈ token, isBlank c = false) ∧ String.ofList (trim token) = item := by
  have notBlank (token : List Char) :
      String.ofList (trim token) ≠ "" ↔ ∃ c ∈ token, isBlank c = false := by
    rw [ne_eq, ← String.toList_eq_nil_iff, String.toList_ofList, trim_eq_nil_iff]
    simp
  rw [items, List.mem_filter, List.mem_map, decide_eq_true_eq]
  constructor
  · rintro ⟨⟨token, mem, rfl⟩, kept⟩
    exact ⟨token, mem, (notBlank token).1 kept, rfl⟩
  · rintro ⟨token, mem, blankFree, rfl⟩
    exact ⟨⟨token, mem, rfl⟩, (notBlank token).2 blankFree⟩

end Text

section Items

variable {α : Type} {read : String → Except Fault α} {items : List String} {values : List α}
  {fault : Fault} {s : String}

def Lists (read : String → Except Fault α) (s : String) (values : List α) : Prop :=
  (Text.items s).map read = values.map .ok

def FirstUnread (read : String → Except Fault α) (items : List String) (fault : Fault) : Prop :=
  ∃ before item after, items = before ++ item :: after ∧
    (∀ earlier ∈ before, ∃ value, read earlier = .ok value) ∧ read item = .error fault

theorem mapM_eq_ok_iff : items.mapM read = .ok values ↔ items.map read = values.map .ok := by
  constructor
  · intro h
    induction items generalizing values with
    | nil =>
        obtain rfl := Except.ok.inj h
        rfl
    | cons item items ih =>
        rw [List.mapM_cons] at h
        cases head : read item with
        | error fault =>
            rw [head] at h
            nomatch h
        | ok value =>
            cases tail : items.mapM read with
            | error fault =>
                rw [head, tail] at h
                nomatch h
            | ok rest =>
                rw [head, tail] at h
                obtain rfl := Except.ok.inj h
                rw [List.map_cons, List.map_cons, head, ih tail]
  · intro h
    induction items generalizing values with
    | nil =>
        obtain rfl : values = [] := List.map_eq_nil_iff.1 h.symm
        rfl
    | cons item items ih =>
        cases values with
        | nil => nomatch h
        | cons value values =>
            obtain ⟨head, tail⟩ := List.cons.inj h
            rw [List.mapM_cons, head, ih tail]
            rfl

theorem firstUnread_of_mapM (h : items.mapM read = .error fault) :
    FirstUnread read items fault := by
  induction items with
  | nil => nomatch h
  | cons item items ih =>
      rw [List.mapM_cons] at h
      cases head : read item with
      | error other =>
          rw [head] at h
          obtain rfl : other = fault := Except.error.inj h
          exact ⟨[], item, items, rfl, by simp, head⟩
      | ok value =>
          rw [head] at h
          cases tail : items.mapM read with
          | ok values =>
              rw [tail] at h
              nomatch h
          | error other =>
              rw [tail] at h
              obtain rfl : other = fault := Except.error.inj h
              obtain ⟨before, unread, after, rfl, good, bad⟩ := ih tail
              exact ⟨item :: before, unread, after, rfl,
                List.forall_mem_cons.2 ⟨⟨value, head⟩, good⟩, bad⟩

theorem mapM_of_firstUnread (h : FirstUnread read items fault) :
    items.mapM read = .error fault := by
  obtain ⟨before, item, after, rfl, good, bad⟩ := h
  induction before with
  | nil =>
      rw [List.nil_append, List.mapM_cons, bad]
      rfl
  | cons first before ih =>
      obtain ⟨⟨value, head⟩, good⟩ := List.forall_mem_cons.1 good
      rw [List.cons_append, List.mapM_cons, head]
      simp only [bind, Except.bind, ih good]

theorem Lists.exists_value (h : Lists read s values) {item : String}
    (hitem : item ∈ Text.items s) : ∃ value, read item = .ok value := by
  have mem : read item ∈ (Text.items s).map read := List.mem_map_of_mem hitem
  rw [h] at mem
  obtain ⟨value, -, same⟩ := List.mem_map.1 mem
  exact ⟨value, same.symm⟩

theorem Lists.unique {others : List α} (h : Lists read s values) (h' : Lists read s others) :
    values = others :=
  List.map_injective_iff.2 (fun _ _ => Except.ok.inj) (h.symm.trans h')

theorem FirstUnread.not_all (h : FirstUnread read items fault) :
    ¬ ∀ item ∈ items, ∃ value, read item = .ok value := by
  obtain ⟨before, item, after, rfl, -, bad⟩ := h
  intro all
  obtain ⟨value, good⟩ := all item (by simp)
  rw [bad] at good
  nomatch good

theorem FirstUnread.unique {other : Fault} (h : FirstUnread read items fault)
    (h' : FirstUnread read items other) : fault = other :=
  Except.error.inj ((mapM_of_firstUnread h).symm.trans (mapM_of_firstUnread h'))

def HasUnread (read : String → Except Fault α) (s : String) : Prop :=
  ∃ token ∈ Text.pieces ',' s.toList, (∃ c ∈ token, Text.isBlank c = false) ∧
    ∀ value, read (String.ofList token) ≠ .ok value

theorem mapM_items_of_enumerates {text : α → String}
    (hvalues : ∀ value ∈ values, Text.IsItem (text value) ∧ read (text value) = .ok value)
    (h : Text.Enumerates s (values.map text)) : (Text.items s).mapM read = .ok values := by
  have isItem : ∀ item ∈ values.map text, Text.IsItem item := by
    simpa using fun value mem => (hvalues value mem).1
  rw [Text.items_of_enumerates h isItem, mapM_eq_ok_iff, List.map_map]
  exact List.map_congr_left fun value mem => (hvalues value mem).2

theorem mapM_items_eq_error_iff
    (trims : ∀ {cs value}, read (String.ofList (Text.trim cs)) = .ok value ↔
      read (String.ofList cs) = .ok value) :
    (∃ fault, (Text.items s).mapM read = .error fault) ↔ HasUnread read s := by
  constructor
  · rintro ⟨fault, h⟩
    obtain ⟨before, item, after, whole, -, bad⟩ := firstUnread_of_mapM h
    obtain ⟨token, mem, notBlank, rfl⟩ := Text.mem_items_iff.1 (whole ▸ List.mem_append_cons_self)
    refine ⟨token, mem, notBlank, fun value good => ?_⟩
    rw [trims.2 good] at bad
    nomatch bad
  · rintro ⟨token, mem, notBlank, bad⟩
    cases h : (Text.items s).mapM read with
    | error fault => exact ⟨fault, rfl⟩
    | ok values =>
        have listed : Lists read s values := mapM_eq_ok_iff.1 h
        obtain ⟨value, good⟩ :=
          listed.exists_value (Text.mem_items_iff.2 ⟨token, mem, notBlank, rfl⟩)
        exact absurd (trims.1 good) (bad value)

end Items

end PolicyRouting
