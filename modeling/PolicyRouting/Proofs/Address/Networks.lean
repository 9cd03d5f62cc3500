import PolicyRouting.Address.Network

/-!
# Networks and their leading bits

A network covers the addresses that have its leading bits.  Clearing the bits
behind them changes none of these, so networks of one length have the same base
exactly if each covers the other's address, and a base covers what its network
covers.
-/

namespace PolicyRouting

theorem testBit_clearLow (drop n i : Nat) :
    (clearLow drop n).testBit i = (decide (drop ≤ i) && n.testBit i) := by
  rw [clearLow, Nat.testBit_shiftLeft, Nat.testBit_shiftRight]
  by_cases h : drop ≤ i
  · rw [Nat.add_sub_cancel' h]
  · simp [h]

theorem clearLow_eq_iff {drop m n : Nat} :
    clearLow drop m = clearLow drop n ↔ ∀ i, drop ≤ i → m.testBit i = n.testBit i := by
  constructor
  · intro h i hi
    have bits := congrArg (Nat.testBit · i) h
    simpa [testBit_clearLow, hi] using bits
  · intro h
    refine Nat.eq_of_testBit_eq fun i => ?_
    rw [testBit_clearLow, testBit_clearLow]
    by_cases hi : drop ≤ i
    · rw [h i hi]
    · simp [hi]

theorem clearLow_clearLow (drop n : Nat) : clearLow drop (clearLow drop n) = clearLow drop n :=
  clearLow_eq_iff.2 fun i hi => by simp [testBit_clearLow, hi]

theorem clearLow_le (drop n : Nat) : clearLow drop n ≤ n := by
  rw [clearLow, Nat.shiftLeft_eq, Nat.shiftRight_eq_div_pow]
  exact Nat.div_mul_le_self _ _

namespace Ipv4

theorem toNat_lt (ip : Ipv4) : ip.toNat < UInt32.size := by
  obtain ⟨a, b, c, d⟩ := ip
  have := a.toNat_lt
  have := b.toNat_lt
  have := c.toNat_lt
  have := d.toNat_lt
  simp only [toNat, octets, List.foldl_cons, List.foldl_nil, UInt32.size]
  omega

theorem toNat_ofNat {n : Nat} (h : n < UInt32.size) : (ofNat n).toNat = n := by
  simp only [UInt32.size] at h
  simp only [toNat, ofNat, octets, List.foldl_cons, List.foldl_nil, UInt8.toNat_ofNat',
    Nat.shiftRight_eq_div_pow]
  omega

end Ipv4

namespace Ipv4Net

variable {net other : Ipv4Net} {ip : Ipv4}

def Covers (net : Ipv4Net) (ip : Ipv4) : Prop :=
  ∀ i : Nat, 32 - (net.length : Nat) ≤ i → ip.toNat.testBit i = net.address.toNat.testBit i

theorem contains_iff : net.contains ip = true ↔ net.Covers ip := by
  rw [contains, decide_eq_true_iff, clearLow_eq_iff, Covers]

@[simp] theorem length_base (net : Ipv4Net) : net.base.length = net.length := rfl

theorem toNat_address_base (net : Ipv4Net) :
    net.base.address.toNat = clearLow (32 - net.length) net.address.toNat :=
  Ipv4.toNat_ofNat (Nat.lt_of_le_of_lt (clearLow_le _ _) net.address.toNat_lt)

theorem base_eq_base_iff :
    net.base = other.base ↔ net.length = other.length ∧ net.Covers other.address := by
  constructor
  · intro h
    have length : net.length = other.length := by rw [← length_base, h, length_base]
    have bits := toNat_address_base net
    rw [h, toNat_address_base, ← length, clearLow_eq_iff] at bits
    exact ⟨length, bits⟩
  · rintro ⟨length, covers⟩
    rw [base, base, ← length, clearLow_eq_iff.2 covers]

theorem base_base (net : Ipv4Net) : net.base.base = net.base := by
  refine base_eq_base_iff.2 ⟨rfl, fun i hi => ?_⟩
  rw [toNat_address_base, testBit_clearLow]
  simp only [length_base] at hi
  simp [hi]

theorem contains_base (net : Ipv4Net) (ip : Ipv4) : net.base.contains ip = net.contains ip := by
  simp only [contains, length_base, toNat_address_base, clearLow_clearLow]

end Ipv4Net

end PolicyRouting
