import PolicyRouting.Proofs.Json.Spelling

/-!
# Both layouts are read

A value is plain if all its numbers are natural.  Each layout of the writer
spells a plain value, and what spells a value is read as that value, so a plain
value comes back from its text in either layout.
-/

namespace PolicyRouting.Json

inductive Plain : Json → Prop where
  | null : Plain .null
  | bool (b : Bool) : Plain (.bool b)
  | nat (n : Nat) : Plain (.nat n)
  | string (s : Option String) : Plain (.string s)
  | array {items : List Json} (plain : ∀ item ∈ items, Plain item) : Plain (.array items)
  | object {members : List (Option String × Json)} (plain : ∀ m ∈ members, Plain m.2) :
      Plain (.object members)

theorem spellsItems_compact {items : List Json} (nonempty : items ≠ [])
    (spelled : ∀ item ∈ items, Spells item (compact item)) :
    SpellsItems items (compactItems items ++ [']']) := by
  induction items with
  | nil => contradiction
  | cons item items ih =>
      have first := spelled item List.mem_cons_self
      cases items with
      | nil => exact .last blanks_nil first blanks_nil
      | cons next items =>
          have others := ih (List.cons_ne_nil _ _) fun item mem =>
            spelled item (List.mem_cons_of_mem _ mem)
          rw [compactItems, List.append_assoc, List.cons_append]
          · exact .more blanks_nil first blanks_nil others
          · exact List.cons_ne_nil _ _

theorem spellsMembers_compact {members : List (Option String × Json)} (nonempty : members ≠ [])
    (spelled : ∀ m ∈ members, Spells m.2 (compact m.2)) :
    SpellsMembers members (compactMembers members ++ ['\x7d']) := by
  induction members with
  | nil => contradiction
  | cons member members ih =>
      obtain ⟨name, item⟩ := member
      have first : Spells item (compact item) := spelled (name, item) List.mem_cons_self
      cases members with
      | nil =>
          rw [compactMembers, List.append_assoc, List.cons_append]
          exact .last blanks_nil name blanks_nil first blanks_nil
      | cons next members =>
          have others := ih (List.cons_ne_nil _ _) fun m mem =>
            spelled m (List.mem_cons_of_mem _ mem)
          rw [compactMembers]
          · simp only [List.append_assoc, List.cons_append]
            exact .more blanks_nil name blanks_nil first blanks_nil others
          · exact List.cons_ne_nil _ _

theorem spells_compact {json : Json} (h : Plain json) : Spells json (compact json) := by
  induction h with
  | null => exact .null
  | bool b => cases b <;> constructor
  | nat n =>
      rw [nat, compact, String.toList_ofList]
      exact .nat n
  | string s => exact .string s
  | @array items _ ih =>
      rw [compact]
      cases items with
      | nil => exact .emptyArray blanks_nil
      | cons item items => exact .array (spellsItems_compact (List.cons_ne_nil _ _) ih)
  | @object members _ ih =>
      rw [compact]
      cases members with
      | nil => exact .emptyObject blanks_nil
      | cons m members => exact .object (spellsMembers_compact (List.cons_ne_nil _ _) ih)

theorem blanks_lineBreak (depth : Nat) : Blanks (lineBreak depth) := by
  intro c mem
  obtain rfl | blank := List.mem_cons.1 mem
  · rfl
  · rw [List.eq_of_mem_replicate blank]
    rfl

theorem spellsItems_indented {items : List Json} (nonempty : items ≠ []) (depth : Nat)
    (spelled : ∀ item ∈ items, Spells item (indented depth item)) {behind : List Char}
    (blanks : Blanks behind) :
    SpellsItems items (indentedItems depth items ++ behind ++ [']']) := by
  induction items with
  | nil => contradiction
  | cons item items ih =>
      have first := spelled item List.mem_cons_self
      cases items with
      | nil =>
          rw [indentedItems]
          simp only [List.append_assoc]
          exact .last (blanks_lineBreak depth) first blanks
      | cons next items =>
          have others := ih (List.cons_ne_nil _ _) fun item mem =>
            spelled item (List.mem_cons_of_mem _ mem)
          rw [indentedItems]
          · simp only [List.append_assoc, List.cons_append] at others ⊢
            exact .more (blanks_lineBreak depth) first blanks_nil others
          · exact List.cons_ne_nil _ _

theorem spellsMembers_indented {members : List (Option String × Json)} (nonempty : members ≠ [])
    (depth : Nat) (spelled : ∀ m ∈ members, Spells m.2 (indented depth m.2)) {behind : List Char}
    (blanks : Blanks behind) :
    SpellsMembers members (indentedMembers depth members ++ behind ++ ['\x7d']) := by
  have space : Blanks [' '] := by intro c mem; rw [List.mem_singleton.1 mem]; rfl
  induction members with
  | nil => contradiction
  | cons member members ih =>
      obtain ⟨name, item⟩ := member
      have first : Spells item (indented depth item) := spelled (name, item) List.mem_cons_self
      cases members with
      | nil =>
          rw [indentedMembers]
          simp only [List.append_assoc, List.cons_append]
          exact .last (blanks_lineBreak depth) name space first blanks
      | cons next members =>
          have others := ih (List.cons_ne_nil _ _) fun m mem =>
            spelled m (List.mem_cons_of_mem _ mem)
          rw [indentedMembers]
          · simp only [List.append_assoc, List.cons_append] at others ⊢
            exact .more (blanks_lineBreak depth) name space first blanks_nil others
          · exact List.cons_ne_nil _ _

theorem spells_indented {json : Json} (h : Plain json) (depth : Nat) :
    Spells json (indented depth json) := by
  induction h generalizing depth with
  | null => exact .null
  | bool b => cases b <;> constructor
  | nat n =>
      rw [nat, indented, String.toList_ofList]
      exact .nat n
  | string s => exact .string s
  | @array items _ ih =>
      cases items with
      | nil => exact .emptyArray blanks_nil
      | cons item items =>
          rw [indented]
          · exact .array <| spellsItems_indented (List.cons_ne_nil _ _) (depth + 1)
              (fun item mem => ih item mem (depth + 1)) (blanks_lineBreak depth)
          · exact List.cons_ne_nil _ _
  | @object members _ ih =>
      cases members with
      | nil => exact .emptyObject blanks_nil
      | cons m members =>
          rw [indented]
          · exact .object <| spellsMembers_indented (List.cons_ne_nil _ _) (depth + 1)
              (fun m mem => ih m mem (depth + 1)) (blanks_lineBreak depth)
          · exact List.cons_ne_nil _ _

theorem ofText?_toText {json : Json} (h : Plain json) : ofText? json.toText = some json := by
  rw [ofText?, toText, String.toList_ofList, ofChars?_of_spells (spells_compact h)]

theorem ofText?_toIndentedText {json : Json} (h : Plain json) :
    ofText? json.toIndentedText = some json := by
  rw [ofText?, toIndentedText, String.toList_ofList, ofChars?_of_spells (spells_indented h 0)]

end PolicyRouting.Json
