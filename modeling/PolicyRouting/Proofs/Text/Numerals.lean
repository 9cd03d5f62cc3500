import PolicyRouting.Text.Blank
import PolicyRouting.Text.Numeral

/-!
# Numerals that are written and read

A number's digits are read as the number, with or without zeros before them.
The digits of a decimal numeral are what the readers of larger texts take for
digits, so they know where it ends, and only the numeral of zero starts with a
zero.  What is read as a decimal number is exactly one or more digits, with or
without a plus sign, that stay below the bound.
-/

namespace PolicyRouting.Text

theorem digitValue?_digitChar {base d : Nat} (small : base ≤ 16) (h : d < base) :
    digitValue? base d.digitChar = some d := by
  have all : ∀ base < 17, ∀ d < base, digitValue? base d.digitChar = some d := by decide +kernel
  exact all base (by omega) d h

theorem digitsFrom?_append (base acc : Nat) (cs more : List Char) :
    digitsFrom? base acc (cs ++ more) =
      (digitsFrom? base acc cs).bind fun n => digitsFrom? base n more := by
  induction cs generalizing acc with
  | nil => rfl
  | cons c cs ih =>
      simp only [List.cons_append, digitsFrom?]
      cases digitValue? base c with
      | none => rfl
      | some d => exact ih _

section Base

variable {base : Nat} (proper : 1 < base) (small : base ≤ 16)

include proper small

theorem digitsFrom?_toDigits (n : Nat) : digitsFrom? base 0 (Nat.toDigits base n) = some n := by
  induction n using Nat.strongRecOn with
  | ind n ih =>
      by_cases single : n < base
      · rw [Nat.toDigits_of_lt_base single, digitsFrom?, digitValue?_digitChar small single]
        simp [digitsFrom?]
      · have shorter : n / base < n := Nat.div_lt_self (by omega) proper
        have last : n % base < base := Nat.mod_lt n (by omega)
        rw [Nat.toDigits_of_base_le proper (by omega), digitsFrom?_append, ih _ shorter]
        simp only [Option.bind_some, digitsFrom?, digitValue?_digitChar small last]
        rw [Nat.mul_comm, Nat.div_add_mod]

theorem digitsFrom?_padded (width n : Nat) :
    digitsFrom? base 0 (padded base width n) = some n := by
  have zero : digitValue? base '0' = some 0 := @digitValue?_digitChar base 0 small (by omega)
  have zeros (k : Nat) : digitsFrom? base 0 (List.replicate k '0') = some 0 := by
    induction k with
    | zero => rfl
    | succ k ih =>
        rw [List.replicate_succ, digitsFrom?, zero, Option.bind_some, Nat.zero_mul, Nat.zero_add]
        exact ih
  rw [padded, digitsFrom?_append, zeros, Option.bind_some, digitsFrom?_toDigits proper small]

theorem digits?_toDigits (n : Nat) : digits? base (Nat.toDigits base n) = some n := by
  have read := digitsFrom?_toDigits proper small n
  cases h : Nat.toDigits base n with
  | nil => exact absurd h Nat.toDigits_ne_nil
  | cons c cs =>
      rw [h] at read
      exact read

theorem digits?_padded (width n : Nat) : digits? base (padded base width n) = some n := by
  have read := digitsFrom?_padded proper small width n
  cases h : padded base width n with
  | nil =>
      rw [padded, List.append_eq_nil_iff] at h
      exact absurd h.2 Nat.toDigits_ne_nil
  | cons c cs =>
      rw [h] at read
      exact read

omit small in
theorem length_padded {width n : Nat} (wide : 0 < width) (fits : n < Nat.pow base width) :
    (padded base width n).length = width := by
  have short := (Nat.length_toDigits_le_iff proper wide).2 fits
  rw [padded, List.length_append, List.length_replicate]
  omega

end Base

theorem isDigit_of_mem_decimal {n : Nat} {c : Char} (h : c ∈ decimal n) : c.isDigit = true :=
  Nat.isDigit_of_mem_toDigits (by decide) (by decide) h

theorem isDigit_of_mem_padded {width n : Nat} {c : Char} (h : c ∈ padded 10 width n) :
    c.isDigit = true := by
  rcases List.mem_append.1 h with zero | digit
  · rw [List.eq_of_mem_replicate zero]
    rfl
  · exact isDigit_of_mem_decimal digit

theorem ne_of_isDigit {c mark : Char} (digit : c.isDigit = true)
    (notDigit : mark.isDigit = false) : c ≠ mark := by
  rintro rfl
  rw [digit] at notDigit
  contradiction

theorem not_mem_decimal {mark : Char} (notDigit : mark.isDigit = false) {n : Nat} :
    mark ∉ decimal n := fun h => ne_of_isDigit (isDigit_of_mem_decimal h) notDigit rfl

theorem isBlank_of_isDigit {c : Char} (digit : c.isDigit = true) : isBlank c = false := by
  have bounds : 48 ≤ c.toNat ∧ c.toNat ≤ 57 := by
    simpa [Char.isDigit, UInt32.le_iff_toNat_le] using digit
  simp [isBlank, inRanges, blankRanges]
  omega

theorem decimal_ne_nil (n : Nat) : decimal n ≠ [] := Nat.toDigits_ne_nil

theorem decimal_eq_zero_cons {n : Nat} {cs : List Char} (h : decimal n = '0' :: cs) : cs = [] := by
  induction n using Nat.strongRecOn generalizing cs with
  | ind n ih =>
      rw [decimal] at h
      by_cases single : n < 10
      · rw [Nat.toDigits_of_lt_base single] at h
        exact (List.cons.inj h).2.symm
      · rw [Nat.toDigits_of_base_le (by decide) (by omega)] at h
        cases front : Nat.toDigits 10 (n / 10) with
        | nil => exact absurd front Nat.toDigits_ne_nil
        | cons c front_rest =>
            rw [front, List.cons_append, List.cons.injEq] at h
            obtain ⟨rfl, -⟩ := h
            -- the shorter numeral is zero, which leaves a number below ten
            have alone := ih (n / 10) (by omega) front
            have value := @digitsFrom?_toDigits 10 (by decide) (by decide) (n / 10)
            rw [front, alone] at value
            have : 0 = n / 10 := Option.some.inj value
            omega

theorem withoutPlus_decimal (n : Nat) : withoutPlus (decimal n) = decimal n := by
  cases h : decimal n with
  | nil => rfl
  | cons c cs =>
      have digit : c.isDigit = true := isDigit_of_mem_decimal (n := n) (by simp [h])
      have distinct : c ≠ '+' := ne_of_isDigit digit rfl
      unfold withoutPlus
      split
      · rename_i heq
        exact absurd (List.cons.inj heq).1 distinct
      · rfl

theorem numeral?_decimal {n bound : Nat} (below : n < bound) :
    numeral? 10 bound (decimal n) = some n := by
  rw [numeral?, withoutPlus_decimal, decimal, digits?_toDigits (by decide) (by decide)]
  simp [below]

@[simp] theorem uint16?_decimal (w : UInt16) : uint16? (decimal w.toNat) = some w := by
  rw [uint16?, numeral?_decimal w.toNat_lt, Option.map_some, UInt16.ofNat_toNat]

@[simp] theorem uint32?_decimal (w : UInt32) : uint32? (decimal w.toNat) = some w := by
  rw [uint32?, numeral?_decimal w.toNat_lt, Option.map_some, UInt32.ofNat_toNat]

/-! ## What is read as a number -/

theorem digitValue?_ten (c : Char) :
    digitValue? 10 c = if c.isDigit = true then some (c.toNat - 48) else none := by
  have isDigit : c.isDigit = true ↔ 48 ≤ c.toNat ∧ c.toNat ≤ 57 := by
    have value : c.isDigit = (decide (48 ≤ c.toNat) && decide (c.toNat ≤ 57)) := rfl
    rw [value, Bool.and_eq_true, decide_eq_true_eq, decide_eq_true_eq]
  have digit : '0' ≤ c ∧ c ≤ '9' ↔ 48 ≤ c.toNat ∧ c.toNat ≤ 57 := Iff.rfl
  unfold digitValue?
  simp only [isDigit, digit]
  split
  · have small : c.toNat - 48 < 10 := by omega
    exact if_pos (decide_eq_true small)
  · -- the letters are digits of larger bases only
    split
    · simp [Option.filter]
    · split
      · simp [Option.filter]
      · rfl

theorem digitsFrom?_ten_eq_some_iff {acc n : Nat} {cs : List Char} :
    digitsFrom? 10 acc cs = some n ↔
      (∀ c ∈ cs, c.isDigit = true) ∧ Nat.ofDigitChars 10 cs acc = n := by
  induction cs generalizing acc with
  | nil => simp [digitsFrom?]
  | cons c cs ih =>
      rw [digitsFrom?, digitValue?_ten, Nat.ofDigitChars_cons, List.forall_mem_cons]
      by_cases digit : c.isDigit = true
      · rw [if_pos digit, Option.bind_some, ih, Nat.mul_comm]
        simp [digit]
      · simp [digit]

/-- One or more digits, with or without a plus sign, and the number they denote. -/
def IsNumeral (cs : List Char) (n : Nat) : Prop :=
  ∃ digits, (cs = digits ∨ cs = '+' :: digits) ∧ digits ≠ [] ∧
    (∀ c ∈ digits, c.isDigit = true) ∧ Nat.ofDigitChars 10 digits 0 = n

theorem withoutPlus_eq_iff {cs digits : List Char} (isDigit : ∀ c ∈ digits, c.isDigit = true) :
    withoutPlus cs = digits ↔ cs = digits ∨ cs = '+' :: digits := by
  have noPlus : ∀ rest, digits ≠ '+' :: rest := by
    rintro rest rfl
    exact absurd (isDigit '+' List.mem_cons_self) (by decide)
  unfold withoutPlus
  split
  · rename_i rest
    rw [or_iff_right (Ne.symm (noPlus rest)), List.cons.injEq, and_iff_right rfl]
  · rename_i other
    exact (or_iff_left (other digits)).symm

theorem digits?_ten_eq_some_iff {n : Nat} {cs : List Char} :
    digits? 10 cs = some n ↔
      cs ≠ [] ∧ (∀ c ∈ cs, c.isDigit = true) ∧ Nat.ofDigitChars 10 cs 0 = n := by
  cases cs with
  | nil => simp [digits?]
  | cons c cs =>
      have nonempty := List.cons_ne_nil c cs
      exact digitsFrom?_ten_eq_some_iff.trans (and_iff_right nonempty).symm

theorem numeral?_ten_eq_some_iff {bound n : Nat} {cs : List Char} :
    numeral? 10 bound cs = some n ↔ IsNumeral cs n ∧ n < bound := by
  rw [numeral?, Option.filter_eq_some_iff, decide_eq_true_eq, digits?_ten_eq_some_iff]
  refine and_congr_left fun _ => ?_
  constructor
  · rintro ⟨nonempty, isDigit, value⟩
    exact ⟨_, (withoutPlus_eq_iff isDigit).1 rfl, nonempty, isDigit, value⟩
  · rintro ⟨digits, written, nonempty, isDigit, value⟩
    rw [(withoutPlus_eq_iff isDigit).2 written]
    exact ⟨nonempty, isDigit, value⟩

theorem uint32?_eq_some_iff {w : UInt32} {cs : List Char} :
    uint32? cs = some w ↔ IsNumeral cs w.toNat := by
  rw [uint32?, Option.map_eq_some_iff]
  constructor
  · rintro ⟨n, h, rfl⟩
    obtain ⟨numeral, small⟩ := numeral?_ten_eq_some_iff.1 h
    rwa [UInt32.toNat_ofNat', Nat.mod_eq_of_lt small]
  · intro numeral
    exact ⟨w.toNat, numeral?_ten_eq_some_iff.2 ⟨numeral, w.toNat_lt⟩, UInt32.ofNat_toNat⟩

end PolicyRouting.Text
