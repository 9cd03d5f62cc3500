import Mathlib.Data.List.Nodup
import PolicyRouting.Form.Fabric
import PolicyRouting.Proofs.Json.Layouts

/-!
# Values that are read back

A value denotes something under a reader if it is plain and the reader finds
just that.  Numbers within their bound, texts, lists, records and tagged values
denote what they were written for as soon as their parts do.
-/

namespace PolicyRouting.Json

structure Denotes {α : Type} (read : Json → Option α) (json : Json) (a : α) : Prop where
  plain : Plain json
  read_eq : read json = some a

theorem mapM_eq_some_map {α β γ : Type} {f : β → Option γ} {g : α → β} {h : α → γ} {as : List α}
    (each : ∀ a ∈ as, f (g a) = some (h a)) : (as.map g).mapM f = some (as.map h) := by
  induction as with
  | nil => rfl
  | cons a as ih =>
      have first := each a List.mem_cons_self
      have rest := ih fun a mem => each a (List.mem_cons_of_mem _ mem)
      simp [first, rest]

theorem natBelow?_nat {n bound : Nat} (h : n < bound) : natBelow? bound (nat n) = some n := by
  have digits : (Text.decimal n).all Char.isDigit = true :=
    List.all_eq_true.2 fun c => Text.isDigit_of_mem_decimal
  have read := @Text.digits?_toDigits 10 (by decide) (by decide) n
  rw [← Text.decimal] at read
  rw [nat, ← Text.decimal]
  simp [natBelow?, digits, read, h]

theorem denotes_uint8 (w : UInt8) : Denotes uint8? (nat w.toNat) w :=
  ⟨.nat _, by rw [uint8?, natBelow?_nat w.toNat_lt, Option.map_some, UInt8.ofNat_toNat]⟩

theorem denotes_uint16 (w : UInt16) : Denotes uint16? (nat w.toNat) w :=
  ⟨.nat _, by rw [uint16?, natBelow?_nat w.toNat_lt, Option.map_some, UInt16.ofNat_toNat]⟩

theorem denotes_uint32 (w : UInt32) : Denotes uint32? (nat w.toNat) w :=
  ⟨.nat _, by rw [uint32?, natBelow?_nat w.toNat_lt, Option.map_some, UInt32.ofNat_toNat]⟩

theorem denotes_uint64 (w : UInt64) : Denotes uint64? (nat w.toNat) w :=
  ⟨.nat _, by rw [uint64?, natBelow?_nat w.toNat_lt, Option.map_some, UInt64.ofNat_toNat]⟩

theorem denotes_text (s : String) : Denotes text? (text s) s := ⟨.string _, rfl⟩

theorem denotes_parsed {α : Type} {read : String → Option α} {s : String} {a : α}
    (h : read s = some a) : Denotes (parsed? read) (text s) a := ⟨.string _, h⟩

theorem denotes_oneOf {α : Type} {name : α → String} {all : List α} {a : α}
    (h : (all.find? fun b => name b = name a) = some a) :
    Denotes (oneOf? name all) (text (name a)) a := ⟨.string _, h⟩

theorem denotes_list {α : Type} {read : Json → Option α} {write : α → Json} {as : List α}
    (h : ∀ a ∈ as, Denotes read (write a) a) :
    Denotes (listOf? read) (.array (as.map write)) as where
  plain := .array fun item mem => by
    obtain ⟨a, at', rfl⟩ := List.mem_map.1 mem
    exact (h a at').plain
  read_eq := by
    have each := mapM_eq_some_map (h := id) fun a mem => (h a mem).read_eq
    rwa [List.map_id] at each

theorem Denotes.required_bind {α β : Type} {read : Json → Option α} {json : Json} {a : α}
    (denotes : Denotes read json a) (next : α → Option β) :
    ((Field.given json).required read).bind next = next a := by
  rw [Field.required, denotes.read_eq, Option.bind_some]

theorem Denotes.orElse_bind {α β : Type} {read : Json → Option α} {json : Json} {a : α}
    (denotes : Denotes read json a) (default : α) (next : α → Option β) :
    ((Field.given json).orElse default read).bind next = next a := by
  rw [Field.orElse, denotes.read_eq, Option.bind_some]

theorem plain_record {members : List (String × Json)} (h : ∀ m ∈ members, Plain m.2) :
    Plain (record members) := .object fun m mem => by
  obtain ⟨m, at', rfl⟩ := List.mem_map.1 mem
  exact h m at'

theorem membersNamed?_record (name : String) (members : List (String × Json)) :
    membersNamed? name (members.map fun m => (some m.1, m.2)) =
      some ((members.filter fun m => m.1 = name).map (·.2)) := by
  have named : (members.map fun m => (some m.1, m.2)).any (·.1.isNone) = false := by simp
  rw [membersNamed?, if_neg (by simp [named]), List.filter_map]
  simp [Function.comp_def]

theorem fieldNamed?_record {name : String} {value : Json} {members : List (String × Json)}
    (distinct : (members.map (·.1)).Nodup) (h : (name, value) ∈ members) :
    fieldNamed? (members.map fun m => (some m.1, m.2)) name = some (.given value) := by
  have only : (members.filter fun m => m.1 = name) = [(name, value)] := by
    induction members with
    | nil => contradiction
    | cons m members ih =>
        obtain ⟨fresh, distinct⟩ := List.nodup_cons.1 distinct
        obtain rfl | later := List.mem_cons.1 h
        · have others : (members.filter fun m => m.1 = name) = [] := by
            refine List.filter_eq_nil_iff.2 fun m mem same => fresh ?_
            exact List.mem_map.2 ⟨m, mem, of_decide_eq_true same⟩
          rw [List.filter_cons_of_pos (by simp), others]
        · have other : m.1 ≠ name := fun same =>
            fresh (List.mem_map.2 ⟨(name, value), later, same.symm⟩)
          rw [List.filter_cons_of_neg (by simpa using other), ih distinct later]
  rw [fieldNamed?, membersNamed?_record, only]
  rfl

theorem fields?_record {names : List String} {members : List (String × Json)}
    (named : members.map (·.1) = names) (distinct : names.Nodup) :
    fields? names (record members) = some (members.map fun m => .given m.2) := by
  subst named
  exact mapM_eq_some_map fun m mem => fieldNamed?_record distinct mem

theorem plain_taggedRecord {tag content name : String} {carried : Option Json}
    (h : ∀ json ∈ carried, Plain json) : Plain (taggedRecord tag content name carried) := by
  refine plain_record fun m mem => ?_
  obtain rfl | carries := List.mem_cons.1 mem
  · exact .string _
  · cases carried with
    | none => simp at carries
    | some json =>
        obtain rfl : m = (content, json) := by simpa using carries
        exact h json rfl

theorem tagged?_taggedRecord {tag content : String} (distinct : tag ≠ content) (name : String)
    (carried : Option Json) :
    tagged? tag content (taggedRecord tag content name carried) = some (name, carried) := by
  cases carried <;>
    simp [tagged?, taggedRecord, record, fieldNamed?, membersNamed?, distinct, distinct.symm, text,
      tagged?.tagName?]

end PolicyRouting.Json
