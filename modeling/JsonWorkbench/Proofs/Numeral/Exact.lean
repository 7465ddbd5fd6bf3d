import JsonWorkbench.Decimal.Binary
import Mathlib

/-!
# Integers that Are Doubles

An integer of at most 53 bits is a double itself: scaled to 53 bits it is the mantissa, and nothing
is rounded. So two different integers of that size have different nearest doubles.

## Main results

* `Decimal.nearestBits_eq` — the bits of the double of such an integer.
* `Decimal.ofInt_inj` — integers of at most 53 bits with one nearest double are the same.
-/

namespace JsonWorkbench.Decimal

/-! ### Bits -/

/-- Nothing is rounded in a whole number. -/
theorem roundDiv_one (n : Nat) : roundDiv n 1 = n := by
  simp [roundDiv, Nat.mod_one]

/-- The bits of an integer of at most 53 bits, scaled to 53 bits, are between two powers of two. -/
theorem scaled_bounds {n : Nat} (h0 : n ≠ 0) (h : n < 2 ^ 53) :
    n.log2 ≤ 52 ∧ hiddenBit ≤ n * 2 ^ (52 - n.log2) ∧ n * 2 ^ (52 - n.log2) < 2 * hiddenBit := by
  have hlog : n.log2 < 53 := (Nat.log2_lt h0).mpr h
  have hle : n.log2 ≤ 52 := Nat.le_of_lt_succ hlog
  have hhidden : hiddenBit = 2 ^ n.log2 * 2 ^ (52 - n.log2) := by
    rw [← Nat.pow_add, Nat.add_sub_cancel' hle]
    rfl
  have hpos : 0 < 2 ^ (52 - n.log2) := Nat.two_pow_pos _
  refine ⟨hle, ?_, ?_⟩
  · rw [hhidden]
    exact Nat.mul_le_mul_right _ (Nat.log2_self_le h0)
  · rw [hhidden, ← Nat.mul_assoc, ← Nat.pow_succ']
    exact (Nat.mul_lt_mul_right hpos).mpr Nat.lt_log2_self

/-- The unit in which an integer of at most 53 bits has 53 of them. -/
theorem unitExponent_one {n : Nat} (h0 : n ≠ 0) (h : n < 2 ^ 53) :
    unitExponent n 1 = (n.log2 : Int) - 52 := by
  obtain ⟨hle, hge, -⟩ := scaled_bounds h0 h
  have hone : Nat.log2 1 = 0 := by decide
  have hneg : ¬(n.log2 : Int) - 53 ≥ 0 := by omega
  have hexp : (-((n.log2 : Int) - 53)).toNat = (52 - n.log2) + 1 := by omega
  have hlarge : n * twoPow (52 - n.log2 + 1) / 1 ≥ 2 * hiddenBit := by
    rw [Nat.div_one, twoPow_succ]
    have htwo : n * twoPow (52 - n.log2) ≥ hiddenBit := hge
    nlinarith
  simp only [unitExponent, scaleDown, hone, Int.natCast_zero, Int.sub_zero, if_neg hneg, hexp,
    if_pos hlarge]
  omega

/-- **The bits of the double of an integer of at most 53 bits**: its logarithm, and it itself,
scaled to 53 bits, without the first one. -/
theorem nearestBits_eq {n : Nat} (h0 : n ≠ 0) (h : n < 2 ^ 53) :
    nearestBits n 1 = (n.log2 + 1023) * hiddenBit + (n * 2 ^ (52 - n.log2) - hiddenBit) := by
  obtain ⟨hle, hge, hlt⟩ := scaled_bounds h0 h
  have hscale : scaleDown n 1 ((n.log2 : Int) - 52) = (n * 2 ^ (52 - n.log2), 1) := by
    rw [scaleDown]
    split_ifs with hexp
    · obtain hlog : n.log2 = 52 := by omega
      simp [hlog, twoPow]
    · rw [show (-((n.log2 : Int) - 52)).toNat = 52 - n.log2 by omega]
      rfl
  have hround : ¬n * 2 ^ (52 - n.log2) = 2 * hiddenBit := Nat.ne_of_lt hlt
  have hsmall : ¬n * 2 ^ (52 - n.log2) < hiddenBit := Nat.not_lt.mpr hge
  have hexp : ¬(n.log2 : Int) - 52 > 971 := by omega
  have hbiased : ((n.log2 : Int) - 52 + 1075).toNat = n.log2 + 1023 := by omega
  simp only [nearestBits, if_neg h0, unitExponent_one h0 h, hscale, roundDiv_one, if_neg hround,
    if_neg hexp, if_neg hsmall, hbiased]

/-- The bits of the double of an integer of at most 53 bits are those of a finite one, and none is
set only for zero. -/
theorem nearestBits_bounds {n : Nat} (h : n < 2 ^ 53) :
    nearestBits n 1 < infinityBits ∧ (nearestBits n 1 = 0 → n = 0) := by
  by_cases h0 : n = 0
  · subst h0
    decide
  · obtain ⟨hle, hge, hlt⟩ := scaled_bounds h0 h
    rw [nearestBits_eq h0 h]
    unfold infinityBits
    unfold hiddenBit at *
    omega

/-- Different integers of at most 53 bits have doubles with different bits. -/
theorem nearestBits_inj {m n : Nat} (hm : m < 2 ^ 53) (hn : n < 2 ^ 53)
    (h : nearestBits m 1 = nearestBits n 1) : m = n := by
  by_cases hm0 : m = 0
  · subst hm0
    exact ((nearestBits_bounds hn).2 h.symm).symm
  by_cases hn0 : n = 0
  · subst hn0
    exact (nearestBits_bounds hm).2 h
  obtain ⟨-, hmge, hmlt⟩ := scaled_bounds hm0 hm
  obtain ⟨-, hnge, hnlt⟩ := scaled_bounds hn0 hn
  rw [nearestBits_eq hm0 hm, nearestBits_eq hn0 hn] at h
  have hlog : m.log2 = n.log2 := by
    unfold hiddenBit at *
    omega
  have hscaled : m * 2 ^ (52 - n.log2) = n * 2 ^ (52 - n.log2) := by
    rw [hlog] at h hmge
    omega
  exact Nat.eq_of_mul_eq_mul_right (Nat.two_pow_pos _) hscaled

/-! ### Doubles -/

open Float.Model in
/-- A finite double has the bits that it is made of. -/
theorem toBits_ofBits {b : UInt64} (h : b.toNat % signBit < infinityBits) :
    (Float.ofBits b).toBits = b := by
  have hnumber : @UnpackedFloat.isNaNBits Format.binary64 b.toBitVec = false := by
    rw [UnpackedFloat.isNaNBits, decide_eq_false_iff_not]
    rintro ⟨hexponent, -⟩
    have hones : b.toNat >>> 52 % 2048 = 2047 := by
      simpa [UnpackedFloat.unpackExponent] using congrArg BitVec.toNat hexponent
    rw [Nat.shiftRight_eq_div_pow] at hones
    unfold signBit infinityBits hiddenBit at h
    omega
  have hpack := @UnpackedFloat.pack_unpack Format.binary64 b.toBitVec (by decide)
  rw [hnumber, if_neg Bool.false_ne_true] at hpack
  exact UInt64.toBitVec_inj.mp hpack

/-- The bits of the double of an integer of at most 53 bits, with its sign. -/
theorem toBits_ofInt {n : Int} (h : n.natAbs < 2 ^ 53) :
    (ofInt n).toBits.toNat = (if n < 0 then signBit else 0) + nearestBits n.natAbs 1 := by
  have hlt := (nearestBits_bounds h).1
  unfold infinityBits hiddenBit at hlt
  have hbits : (UInt64.ofNat (if n < 0 then signBit + nearestBits n.natAbs 1
      else nearestBits n.natAbs 1)).toNat =
      (if n < 0 then signBit else 0) + nearestBits n.natAbs 1 := by
    rw [UInt64.toNat_ofNat']
    unfold signBit
    split_ifs <;> omega
  rw [ofInt, nearest, ofSignBits]
  simp only [decide_eq_true_eq]
  rw [toBits_ofBits, hbits]
  rw [hbits]
  unfold signBit infinityBits hiddenBit
  split_ifs <;> omega

/-- **Integers of at most 53 bits with one nearest double** are the same. -/
theorem ofInt_inj {m n : Int} (hm : m.natAbs < 2 ^ 53) (hn : n.natAbs < 2 ^ 53)
    (h : (ofInt m == ofInt n) = true) : m = n := by
  have hmbits := toBits_ofInt hm
  have hnbits := toBits_ofInt hn
  obtain ⟨hmlt, hmzero⟩ := nearestBits_bounds hm
  obtain ⟨hnlt, hnzero⟩ := nearestBits_bounds hn
  have hzero : (0 : Float).toBits.toNat = 0 := by decide
  have hnegzero : (-0 : Float).toBits.toNat = signBit := by decide
  unfold infinityBits hiddenBit at hmlt hnlt
  unfold signBit at hmbits hnbits hnegzero
  obtain ⟨-, -, heq | ⟨hx, hy⟩ | ⟨hx, hy⟩⟩ := Float.beq_iff_ne_nan_and_eq.mp h
  · rw [heq] at hmbits
    have hsame : (m < 0 ↔ n < 0) ∧ nearestBits m.natAbs 1 = nearestBits n.natAbs 1 := by
      split_ifs at hmbits hnbits <;> omega
    have habs : m.natAbs = n.natAbs := nearestBits_inj hm hn hsame.2
    omega
  · rw [hy, hnegzero] at hnbits
    split_ifs at hnbits <;> omega
  · rw [hx, hnegzero] at hmbits
    split_ifs at hmbits <;> omega

end JsonWorkbench.Decimal
