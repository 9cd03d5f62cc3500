import PolicyRouting.Decimal.Cost

/-!
# The costs of counts

Every count of up to 53 binary digits is a cost without rounding: its digits
fill the significand from the front, and the exponent says how far they were
moved.
-/

namespace PolicyRouting.Cost

/-- The cost is that very number. -/
def StandsFor (cost : Cost) (n : Nat) : Prop :=
  cost.isNegative = false ∧ cost.field < 0x7ff ∧
    cost.significand * (Decimal.powers 2 cost.exponent).1 =
      n * (Decimal.powers 2 cost.exponent).2

instance (cost : Cost) (n : Nat) : Decidable (cost.StandsFor n) :=
  inferInstanceAs (Decidable (_ ∧ _ ∧ _))

theorem exists_toNat_bits_ofCount {n : Nat} (pos : n ≠ 0) (small : n < 0x20000000000000) :
    ∃ fraction < 0x10000000000000,
      (ofCount n).bits.toNat = (n.log2 + 1023) * 0x10000000000000 + fraction ∧
      0x10000000000000 + fraction = n <<< (52 - n.log2) := by
  have log : n.log2 ≤ 52 := Nat.le_of_lt_succ ((Nat.log2_lt pos).2 small)
  have low : 0x10000000000000 ≤ n <<< (52 - n.log2) := by
    rw [Nat.shiftLeft_eq]
    calc 2 ^ 52 = 2 ^ n.log2 * 2 ^ (52 - n.log2) := by rw [← Nat.pow_add, Nat.add_sub_cancel' log]
      _ ≤ n * 2 ^ (52 - n.log2) := Nat.mul_le_mul_right _ (Nat.log2_self_le pos)
  have high : n <<< (52 - n.log2) < 0x20000000000000 := by
    rw [Nat.shiftLeft_eq]
    calc n * 2 ^ (52 - n.log2) < 2 ^ (n.log2 + 1) * 2 ^ (52 - n.log2) :=
          Nat.mul_lt_mul_of_pos_right Nat.lt_log2_self (Nat.two_pow_pos _)
      _ = 2 ^ 53 := by rw [← Nat.pow_add]; congr 1; omega
  refine ⟨n <<< (52 - n.log2) - 0x10000000000000, by omega, ?_, by omega⟩
  have shift : n.log2 - 52 = 0 := by omega
  have place : (n.log2 + 1022) <<< 52 = (n.log2 + 1022) * 0x10000000000000 := Nat.shiftLeft_eq _ _
  rw [ofCount, if_neg pos]
  simp only [shift, Nat.shiftRight_zero, Nat.shiftLeft_zero, Nat.mod_one, place]
  rw [if_neg (by omega), UInt64.toNat_ofNat', Nat.mod_eq_of_lt (by omega)]
  omega

theorem standsFor_ofCount {n : Nat} (small : n ≤ 0x20000000000000) :
    (ofCount n).StandsFor n := by
  by_cases zero : n = 0
  · subst zero
    refine ⟨by decide, by decide, ?_⟩
    have none_left : (ofCount 0).significand = 0 := by decide
    rw [none_left, Nat.zero_mul, Nat.zero_mul]
  by_cases bound : n = 0x20000000000000
  · subst bound
    decide
  have small : n < 0x20000000000000 := by omega
  have log : n.log2 ≤ 52 := Nat.le_of_lt_succ ((Nat.log2_lt zero).2 small)
  obtain ⟨fraction, hfraction, bits, digits⟩ := exists_toNat_bits_ofCount zero small
  have field : (ofCount n).field = n.log2 + 1023 := by
    rw [field, bits, Nat.shiftRight_eq_div_pow]
    omega
  have kept : (ofCount n).fraction = fraction := by
    rw [Cost.fraction, bits]
    omega
  have size : (ofCount n).significand = n <<< (52 - n.log2) := by
    rw [significand, field, if_neg (by omega), kept, digits]
  have exponent : (ofCount n).exponent = (n.log2 : Int) - 52 := by
    rw [exponent, field, if_neg (by omega)]
    omega
  refine ⟨?_, by omega, ?_⟩
  · rw [isNegative, bits, Nat.shiftRight_eq_div_pow]
    exact decide_eq_false (by omega)
  · have ahead : ((n.log2 : Int) - 52).toNat = 0 := by omega
    have behind : (-((n.log2 : Int) - 52)).toNat = 52 - n.log2 := by omega
    simp only [Decimal.powers, exponent, ahead, behind, size, Nat.shiftLeft_eq]
    exact Nat.mul_one _

end PolicyRouting.Cost
