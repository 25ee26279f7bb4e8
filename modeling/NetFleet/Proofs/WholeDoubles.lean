import Mathlib.Tactic.Ring
import NetFleet.Decimal.Exact

/-!
# Whole numbers in doubles

A double holds every whole number below `2^53` exactly, so arithmetic that starts
from such numbers, and whose exact results are such numbers again, rounds
nothing. `nearest_whole` says so for the rounding of a ratio: when `a / b` is a
whole number `N < 2^53`, the nearest double is `N` itself. It rests on the binade
of a whole ratio being that of the whole number (`binade_whole`). The doubles of
whole numbers, their products and quotients follow (`ofNat_whole`, `mul_whole`,
`div_whole`), and the count of a whole double is that number (`toUInt64_whole`).
-/

namespace NetFleet.Decimal

namespace Dyadic

/-- A dyadic whose value is the whole number `N`. -/
def IsWhole (x : Dyadic) (N : Nat) : Prop := x.num = N * x.den

theorem den_pos (x : Dyadic) : 0 < x.den := Nat.two_pow_pos _

/-- The binade of a whole ratio `N * b / b` is that of `N`: the logarithm of
`N * b` is the sum of the logarithms or one more, and the test of the binade
takes the one back. -/
theorem binade_whole {N b : Nat} (hN : 0 < N) (hb : 0 < b) : binade (N * b) b = N.log2 := by
  have hNb : N * b ≠ 0 := Nat.mul_ne_zero (by omega) (by omega)
  have hN1 : 2 ^ N.log2 ≤ N := Nat.log2_self_le (by omega)
  have hN2 : N < 2 ^ (N.log2 + 1) := Nat.lt_log2_self
  have hb1 : 2 ^ b.log2 ≤ b := Nat.log2_self_le (by omega)
  have hb2 : b < 2 ^ (b.log2 + 1) := Nat.lt_log2_self
  have hlo : N.log2 + b.log2 ≤ (N * b).log2 :=
    (Nat.le_log2 hNb).2 (by rw [Nat.pow_add]; exact Nat.mul_le_mul hN1 hb1)
  have hhi : (N * b).log2 < N.log2 + b.log2 + 2 := by
    refine (Nat.log2_lt hNb).2 ?_
    calc N * b < 2 ^ (N.log2 + 1) * 2 ^ (b.log2 + 1) := Nat.mul_lt_mul'' hN2 hb2
      _ = 2 ^ (N.log2 + b.log2 + 2) := by rw [← Nat.pow_add]; congr 1; omega
  unfold binade
  simp only [Nat.pow_eq]
  rcases (show (N * b).log2 = N.log2 + b.log2 ∨ (N * b).log2 = N.log2 + b.log2 + 1 by omega)
    with h | h
  · -- the difference of the logarithms is the binade: `N` is not below `2 ^ N.log2`
    have ht : ((N * b).log2 : Int) - b.log2 = N.log2 := by omega
    have hle : b * 2 ^ N.log2 ≤ N * b * 2 ^ (-(N.log2 : Int)).toNat := by
      rw [show (-(N.log2 : Int)).toNat = 0 by omega, Nat.pow_zero, Nat.mul_one, Nat.mul_comm]
      exact Nat.mul_le_mul_right b hN1
    simp only [ht, Int.toNat_natCast, if_neg (Nat.not_lt.2 hle)]
  · -- one more than the binade: `N` is below `2 ^ (N.log2 + 1)`
    have ht : ((N * b).log2 : Int) - b.log2 = ((N.log2 + 1 : Nat) : Int) := by omega
    have hlt : N * b * 2 ^ (-((N.log2 + 1 : Nat) : Int)).toNat < b * 2 ^ (N.log2 + 1) := by
      rw [show (-((N.log2 + 1 : Nat) : Int)).toNat = 0 by omega, Nat.pow_zero, Nat.mul_one,
        Nat.mul_comm]
      exact Nat.mul_lt_mul_of_pos_left hN2 hb
    simp only [ht, Int.toNat_natCast, if_pos hlt]
    omega

/-- The double nearest to a whole ratio below `2^53` is that whole number. -/
theorem nearest_whole {a b N : Nat} (hb : 0 < b) (hN : N < 2 ^ 53) (h : a = N * b) :
    ∃ x, nearest a b = some x ∧ x.IsWhole N := by
  subst h
  rcases Nat.eq_zero_or_pos N with rfl | hN0
  · exact ⟨⟨0, 0⟩, by simp [nearest], by simp [IsWhole, num]⟩
  have hl : N.log2 < 53 := (Nat.log2_lt (by omega)).2 hN
  -- the last place of the binade of `N` is `2 ^ (N.log2 - 52)`: `N` is a whole number of them
  have he : max (binade (N * b) b - 52) (-1074) = (N.log2 : Int) - 52 := by
    rw [binade_whole hN0 hb]
    omega
  have hneg : (-((N.log2 : Int) - 52)).toNat = 52 - N.log2 := by omega
  have hpos : ((N.log2 : Int) - 52).toNat = 0 := by omega
  have hq : N * b * 2 ^ (52 - N.log2) / b = N * 2 ^ (52 - N.log2) := by
    rw [Nat.mul_right_comm, Nat.mul_div_cancel _ hb]
  have hr : N * b * 2 ^ (52 - N.log2) % b = 0 := by
    rw [Nat.mul_right_comm]
    exact Nat.mul_mod_left _ _
  have hfit : N * 2 ^ (52 - N.log2) < 2 ^ 1024 := by
    calc N * 2 ^ (52 - N.log2) < 2 ^ (N.log2 + 1) * 2 ^ (52 - N.log2) :=
          Nat.mul_lt_mul_of_pos_right Nat.lt_log2_self (Nat.two_pow_pos _)
      _ = 2 ^ 53 := by rw [← Nat.pow_add]; congr 1; omega
      _ < 2 ^ 1024 := Nat.pow_lt_pow_right (by decide) (by decide)
  refine ⟨⟨N * 2 ^ (52 - N.log2), (N.log2 : Int) - 52⟩, ?_, ?_⟩
  · have hNb : N * b ≠ 0 := Nat.mul_ne_zero (by omega) (by omega)
    -- no remainder: the mantissa is not rounded
    have hexact : ¬(b < 2 * 0 ∨ 2 * 0 = b ∧ N * 2 ^ (52 - N.log2) % 2 = 1) := by omega
    simp only [nearest, Nat.pow_eq, if_neg hNb, he, hneg, hpos, Nat.pow_zero, Nat.mul_one, hq, hr]
    rw [if_neg hexact, if_neg (Nat.not_le.2 hfit)]
  · simp only [IsWhole, num, den, Nat.pow_eq, hneg, hpos, Nat.pow_zero, Nat.mul_one]

end Dyadic

namespace Double

theorem ofRatio_whole {a b N : Nat} (hb : 0 < b) (hN : N < 2 ^ 53) (h : a = N * b) :
    ∃ x, ofRatio a b = .finite x ∧ x.IsWhole N := by
  obtain ⟨x, hx, hw⟩ := Dyadic.nearest_whole hb hN h
  exact ⟨x, by simp [ofRatio, hx], hw⟩

/-- A whole number below `2^53` is a double. -/
theorem ofNat_whole {N : Nat} (hN : N < 2 ^ 53) : ∃ x, ofNat N = .finite x ∧ x.IsWhole N :=
  ofRatio_whole Nat.one_pos hN (Nat.mul_one N).symm

/-- The product of two whole doubles is exact below `2^53`. -/
theorem mul_whole {x y : Dyadic} {M N : Nat} (hx : x.IsWhole M) (hy : y.IsWhole N)
    (h : M * N < 2 ^ 53) : ∃ z, (finite x).mul (finite y) = .finite z ∧ z.IsWhole (M * N) := by
  refine ofRatio_whole (Nat.mul_pos x.den_pos y.den_pos) h ?_
  rw [hx, hy]
  ring

/-- The quotient of two whole doubles is exact when it is whole, below `2^53`. -/
theorem div_whole {x y : Dyadic} {Q S : Nat} (hx : x.IsWhole (Q * S)) (hy : y.IsWhole S)
    (hS : 0 < S) (hQ : Q < 2 ^ 53) : ∃ z, (finite x).div (finite y) = .finite z ∧ z.IsWhole Q := by
  have hnum : 0 < y.num := by
    rw [hy]
    exact Nat.mul_pos hS y.den_pos
  have hm : y.mant ≠ 0 := by
    intro h0
    simp [Dyadic.num, h0] at hnum
  rw [div, if_neg hm]
  refine ofRatio_whole (Nat.mul_pos x.den_pos hnum) hQ ?_
  rw [hx, hy]
  ring

/-- The count of a whole double in the range of 64 bits is that number. -/
theorem toUInt64_whole {x : Dyadic} {N : Nat} (hx : x.IsWhole N) (hN : N < 2 ^ 64) :
    (finite x).toUInt64.toNat = N := by
  have hdiv : x.num / x.den = N := by
    rw [hx, Nat.mul_div_cancel _ x.den_pos]
  simp only [toUInt64, Nat.pow_eq, hdiv, Nat.min_eq_left (show N ≤ 2 ^ 64 - 1 by omega)]
  exact Nat.mod_eq_of_lt hN

end Double

end NetFleet.Decimal
