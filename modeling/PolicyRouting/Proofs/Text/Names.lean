import Mathlib.Data.List.Forall2
import PolicyRouting.Policy.Basic

/-!
# Names in any case

Names are written in upper case and read in either.  The name of an application
may have hyphens for its underscores; the name of an action may not.
-/

namespace PolicyRouting

namespace Text

theorem toNat_moved {low high step : UInt32} {c : Char}
    (valid : low ≤ c.val ∧ c.val ≤ high → (c.val + step).isValidChar) :
    (if h : low ≤ c.val ∧ c.val ≤ high then (⟨c.val + step, valid h⟩ : Char) else c).toNat =
      if low.toNat ≤ c.toNat ∧ c.toNat ≤ high.toNat then (c.toNat + step.toNat) % 4294967296
      else c.toNat := by
  have inside : low ≤ c.val ∧ c.val ≤ high ↔ low.toNat ≤ c.toNat ∧ c.toNat ≤ high.toNat := Iff.rfl
  split
  case isTrue h =>
    rw [if_pos (inside.1 h)]
    exact UInt32.toNat_add c.val step
  case isFalse h => rw [if_neg fun bounds => h (inside.2 bounds)]

theorem toNat_toUpper (c : Char) :
    c.toUpper.toNat = if 97 ≤ c.toNat ∧ c.toNat ≤ 122 then (c.toNat + 4294967264) % 4294967296
      else c.toNat :=
  toNat_moved _

theorem toNat_toLower (c : Char) :
    c.toLower.toNat = if 65 ≤ c.toNat ∧ c.toNat ≤ 90 then (c.toNat + 32) % 4294967296
      else c.toNat :=
  toNat_moved _

def Cased (c letter : Char) : Prop := c = letter ∨ c = letter.toLower

/-- In either case, or a hyphen for an underscore. -/
def Loose (c letter : Char) : Prop := Cased c letter ∨ (c = '-' ∧ letter = '_')

theorem not_lower_iff {c : Char} : c.isLower = false ↔ c.toNat < 97 ∨ 122 < c.toNat := by
  have value : c.isLower = (decide (97 ≤ c.toNat) && decide (c.toNat ≤ 122)) := rfl
  rw [value, Bool.and_eq_false_iff, decide_eq_false_iff_not, decide_eq_false_iff_not]
  omega

theorem toUpper_eq_iff {c letter : Char} (h : letter.isLower = false) :
    c.toUpper = letter ↔ Cased c letter := by
  have bounds := not_lower_iff.1 h
  rw [Cased, ← Char.toNat_inj, ← Char.toNat_inj, ← Char.toNat_inj, toNat_toUpper, toNat_toLower]
  split <;> split <;> omega

theorem folded_eq_iff {c letter : Char} (h : letter.isLower = false) (noHyphen : letter ≠ '-') :
    (if c = '-' then '_' else c.toUpper) = letter ↔ Loose c letter := by
  by_cases hyphen : c = '-'
  · subst hyphen
    have notCased : ¬ Cased '-' letter := by
      rw [← toUpper_eq_iff h]
      exact Ne.symm noHyphen
    rw [if_pos rfl, Loose, or_iff_right notCased, eq_comm]
    exact (and_iff_right rfl).symm
  · rw [if_neg hyphen, Loose, or_iff_left fun stands => hyphen stands.1]
    exact toUpper_eq_iff h

theorem map_eq_iff_forall₂ {f : Char → Char} {Stands : Char → Char → Prop} {cs letters : List Char}
    (h : ∀ c, ∀ letter ∈ letters, f c = letter ↔ Stands c letter) :
    cs.map f = letters ↔ List.Forall₂ Stands cs letters := by
  induction letters generalizing cs with
  | nil => simp
  | cons letter letters ih =>
      cases cs with
      | nil => simp
      | cons c cs =>
          rw [List.map_cons, List.cons.injEq, List.forall₂_cons,
            h c letter List.mem_cons_self, ih fun c other hother =>
              h c other (List.mem_cons_of_mem _ hother)]

end Text

namespace Application

variable {app : Application} {s : String} {fault : Fault}

/-- The text, but for the blanks around it, spells the name of the application. -/
def IsCalled (app : Application) (s : String) : Prop :=
  List.Forall₂ Text.Loose (Text.trim s.toList) app.name.toList

theorem name_plain : ∀ letter ∈ app.name.toList, letter.isLower = false ∧ letter ≠ '-' := by
  have all : app.name.toList.all (fun letter => !letter.isLower && letter != '-') = true := by
    cases app <;> rfl
  intro letter h
  simpa using List.all_eq_true.1 all letter h

theorem isCalled_iff : app.IsCalled s ↔ Text.folded s = app.name.toList :=
  (Text.map_eq_iff_forall₂ fun _ letter h =>
    Text.folded_eq_iff (name_plain letter h).1 (name_plain letter h).2).symm

theorem ofName?_eq_some_iff {cs : List Char} : ofName? cs = some app ↔ cs = app.name.toList := by
  constructor
  · intro h
    have found := List.find?_some h
    exact (of_decide_eq_true found).symm
  · rintro rfl
    cases app <;> decide

theorem ofText_eq_ok_iff : ofText s = .ok app ↔ app.IsCalled s := by
  rw [isCalled_iff, ← ofName?_eq_some_iff, ofText]
  split <;> simp_all

theorem ofText_eq_error_iff :
    ofText s = .error fault ↔ (∀ app : Application, ¬ app.IsCalled s) ∧ fault = .unknownApplication s := by
  simp only [isCalled_iff, ← ofName?_eq_some_iff, ofText]
  cases ofName? (Text.folded s) <;> simp [eq_comm]

end Application

namespace RouteClass

variable {class_ : RouteClass} {s : String} {fault : Fault}

def actionNames : RouteClass → List String
  | intra => ["INTRA", "INTRA_ROUTE"]
  | inter => ["INTER", "INTER_ROUTE"]

def IsCalled (class_ : RouteClass) (s : String) : Prop :=
  ∃ name ∈ class_.actionNames, List.Forall₂ Text.Cased (Text.trim s.toList) name.toList

theorem actionNames_plain :
    ∀ name ∈ class_.actionNames, ∀ letter ∈ name.toList, letter.isLower = false := by
  have all : class_.actionNames.all (fun name => name.toList.all fun letter => !letter.isLower) =
      true := by
    cases class_ <;> rfl
  intro name hname letter hletter
  simpa using List.all_eq_true.1 (List.all_eq_true.1 all name hname) letter hletter

theorem isCalled_iff : class_.IsCalled s ↔
    (Text.trim s.toList).map Char.toUpper ∈ class_.actionNames.map String.toList := by
  simp only [IsCalled, List.mem_map]
  refine exists_congr fun name => and_congr_right fun h => ?_
  rw [eq_comm]
  exact (Text.map_eq_iff_forall₂ fun _ letter hletter =>
    Text.toUpper_eq_iff (actionNames_plain name h letter hletter)).symm

theorem ofActionText_eq_ok_iff : ofActionText s = .ok class_ ↔ class_.IsCalled s := by
  rw [isCalled_iff, ofActionText]
  generalize (Text.trim s.toList).map Char.toUpper = name
  cases class_ with
  | intra =>
      simp only [actionNames, List.map_cons, List.map_nil, List.mem_cons, List.not_mem_nil, or_false]
      split
      · exact iff_of_true rfl ‹_›
      · split <;> exact iff_of_false (by simp) ‹_›
  | inter =>
      simp only [actionNames, List.map_cons, List.map_nil, List.mem_cons, List.not_mem_nil, or_false]
      split
      · rename_i intra
        rcases intra with rfl | rfl <;> decide
      · split
        · exact iff_of_true rfl ‹_›
        · exact iff_of_false (by simp) ‹_›

theorem ofActionText_eq_error_iff :
    ofActionText s = .error fault ↔
      (∀ class_ : RouteClass, ¬ class_.IsCalled s) ∧ fault = .unknownAction s := by
  simp only [← ofActionText_eq_ok_iff, ofActionText]
  split
  · simp
  · split <;> simp [eq_comm]

end RouteClass

end PolicyRouting
