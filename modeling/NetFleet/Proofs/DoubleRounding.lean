import Mathlib
import NetFleet.Decimal.Data

/-!
# Rounding to the nearest double

A double that is not negative is `m · 2^e`. The reals that round to it lie
within half a unit of its last place above it and, below it, within half a unit
too, or a quarter at the first mantissa of a binade, where the neighbour below
is half as far; the ends belong to it when `m` is even, since a tie goes to the
even mantissa (`Binary.Reads`). The main result is that `Dyadic.nearest`, which
rounds a ratio of natural numbers, and `Binary.ofDyadic`, which takes the result
apart, find exactly that double for every ratio it reads:

    b.Valid → 0 < b.mant → b.Reads (a / c) →
      ∃ x, Dyadic.nearest a c = some x ∧ Binary.ofDyadic b.neg x = b

(`nearest_of_reads`). It rests on the binade of a ratio (`binade_spec`), on the
rounding step of `nearest` (`roundHalfEven_eq`), and on the exponent of the last
place that `nearest` keeps for a ratio read as `b` (`lastPlace_of_reads`).
Conversely every double that `nearest` gives is taken apart into valid parts
(`ofDyadic_valid`).
-/

namespace NetFleet.Decimal

/-! ### Values in `ℚ` -/

/-- The value of a ratio. -/
def Ratio.val (r : Ratio) : ℚ := r.num / r.den

theorem Ratio.le_iff {x y : Ratio} (hx : 0 < x.den) (hy : 0 < y.den) :
    x.le y = true ↔ x.val ≤ y.val := by
  rw [Ratio.val, Ratio.val, div_le_div_iff₀ (by exact_mod_cast hx) (by exact_mod_cast hy)]
  simp only [Ratio.le, decide_eq_true_eq]
  exact_mod_cast Iff.rfl

theorem Ratio.lt_iff {x y : Ratio} (hx : 0 < x.den) (hy : 0 < y.den) :
    x.lt y = true ↔ x.val < y.val := by
  rw [Ratio.val, Ratio.val, div_lt_div_iff₀ (by exact_mod_cast hx) (by exact_mod_cast hy)]
  simp only [Ratio.lt, decide_eq_true_eq]
  exact_mod_cast Iff.rfl

/-- A power with an integer exponent, written as the model writes it: the power of
the positive part over the power of the negative part. -/
theorem pow_toNat_div_pow_toNat (x : ℕ) (e : ℤ) :
    ((x ^ e.toNat : ℕ) : ℚ) / ((x ^ (-e).toNat : ℕ) : ℚ) = (x : ℚ) ^ e := by
  rcases le_or_gt 0 e with h | h
  · obtain ⟨n, rfl⟩ := Int.eq_ofNat_of_zero_le h
    simp
  · obtain ⟨n, rfl⟩ := Int.exists_eq_neg_ofNat h.le
    simp [zpow_neg]

theorem two_pow_toNat_div (e : ℤ) :
    ((2 ^ e.toNat : ℕ) : ℚ) / ((2 ^ (-e).toNat : ℕ) : ℚ) = (2 : ℚ) ^ e := by
  simpa using pow_toNat_div_pow_toNat 2 e

theorem Ratio.val_scaled (q : ℕ) (k : ℤ) : (Ratio.scaled q k).val = q * (10 : ℚ) ^ k := by
  unfold Ratio.scaled Ratio.val
  split
  · next hk =>
    obtain ⟨n, rfl⟩ := Int.eq_ofNat_of_zero_le hk
    simp
  · next hk =>
    obtain ⟨n, rfl⟩ := Int.exists_eq_neg_ofNat (le_of_lt (not_le.1 hk))
    simp [zpow_neg, div_eq_mul_inv]

/-! ### The binade of a ratio -/

/-- `Dyadic.binade a c` is the exponent of the power of two at or below `a / c`. -/
theorem binade_spec {a c : ℕ} (ha : 0 < a) (hc : 0 < c) :
    (2 : ℚ) ^ Dyadic.binade a c ≤ a / c ∧ (a / c : ℚ) < 2 ^ (Dyadic.binade a c + 1) := by
  have ha₁ : 2 ^ a.log2 ≤ a := Nat.log2_self_le (by omega)
  have ha₂ : a < 2 ^ (a.log2 + 1) := Nat.lt_log2_self
  have hc₁ : 2 ^ c.log2 ≤ c := Nat.log2_self_le (by omega)
  have hc₂ : c < 2 ^ (c.log2 + 1) := Nat.lt_log2_self
  have hcq : (0 : ℚ) < c := by exact_mod_cast hc
  set t : ℤ := (a.log2 : ℤ) - c.log2 with ht
  -- the ratio lies strictly between `2^(t-1)` and `2^(t+1)`
  have hlow : (2 : ℚ) ^ (t - 1) < a / c := by
    rw [lt_div_iff₀ hcq, ht, show (a.log2 : ℤ) - c.log2 - 1 = a.log2 - (c.log2 + 1 : ℕ) by push_cast; ring,
      zpow_sub₀ (by norm_num), zpow_natCast, zpow_natCast, div_mul_eq_mul_div, div_lt_iff₀ (by positivity)]
    have h₁ : ((2 ^ a.log2 : ℕ) : ℚ) ≤ a := by exact_mod_cast ha₁
    have h₂ : (c : ℚ) < ((2 ^ (c.log2 + 1) : ℕ) : ℚ) := by exact_mod_cast hc₂
    push_cast at h₁ h₂
    nlinarith [pow_pos (two_pos : (0 : ℚ) < 2) a.log2]
  have hhigh : (a / c : ℚ) < 2 ^ (t + 1) := by
    rw [div_lt_iff₀ hcq, ht, show (a.log2 : ℤ) - c.log2 + 1 = (a.log2 + 1 : ℕ) - c.log2 by push_cast; ring,
      zpow_sub₀ (by norm_num), zpow_natCast, zpow_natCast, div_mul_eq_mul_div, lt_div_iff₀ (by positivity)]
    have h₁ : (a : ℚ) < ((2 ^ (a.log2 + 1) : ℕ) : ℚ) := by exact_mod_cast ha₂
    have h₂ : ((2 ^ c.log2 : ℕ) : ℚ) ≤ c := by exact_mod_cast hc₁
    push_cast at h₁ h₂
    nlinarith [pow_pos (two_pos : (0 : ℚ) < 2) c.log2]
  -- the test of `binade` asks whether the ratio is below `2^t`
  have htest : a * 2 ^ (-t).toNat < c * 2 ^ t.toNat ↔ (a / c : ℚ) < 2 ^ t := by
    rw [← two_pow_toNat_div t, div_lt_div_iff₀ hcq (by positivity), Nat.mul_comm c]
    exact_mod_cast Iff.rfl
  unfold Dyadic.binade
  simp only [Nat.pow_eq, ← ht]
  split
  · next h =>
    refine ⟨hlow.le, ?_⟩
    rw [sub_add_cancel]
    exact htest.1 h
  · next h =>
    exact ⟨not_lt.1 (mt htest.2 h), hhigh⟩

/-! ### The rounding step -/

/-- The rounding step of `Dyadic.nearest`: the quotient of `n` by `d`, one more
when the remainder passes half of `d`, or is half of it and the quotient is odd. -/
def roundHalfEven (n d : ℕ) : ℕ :=
  if d < 2 * (n % d) ∨ (2 * (n % d) = d ∧ n / d % 2 = 1) then n / d + 1 else n / d

/-- A ratio within half a unit of `M`, and at exactly half a unit only when `M`
is even, rounds to `M`. -/
theorem roundHalfEven_eq {n d M : ℕ} (hd : 0 < d) (hlo : 2 * (M * d) ≤ 2 * n + d)
    (hhi : 2 * n ≤ 2 * (M * d) + d) (htie : 2 * (M * d) = 2 * n + d ∨ 2 * n = 2 * (M * d) + d → M % 2 = 0) :
    roundHalfEven n d = M := by
  have hdm : n / d * d + n % d = n := by rw [Nat.mul_comm]; exact Nat.div_add_mod n d
  have hr := Nat.mod_lt n hd
  set q := n / d
  set r := n % d
  -- the quotient is `M` or one less
  have hq : q = M ∨ q + 1 = M := by
    rcases Nat.lt_or_ge M q with h | h
    · have : (M + 1) * d ≤ q * d := Nat.mul_le_mul_right d h
      rw [Nat.add_mul, Nat.one_mul] at this
      omega
    · rcases Nat.lt_or_ge (q + 1) M with h' | h'
      · have : (q + 2) * d ≤ M * d := Nat.mul_le_mul_right d h'
        rw [Nat.add_mul] at this
        omega
      · omega
  unfold roundHalfEven
  rcases hq with rfl | hq
  · -- on `M`: the remainder is at most half of `d`, and half only when `M` is even
    rw [if_neg]
    rintro (h | ⟨h, hodd⟩)
    · omega
    · have := htie (.inr (by omega))
      omega
  · -- one below `M`: the remainder is at least half of `d`, and half only when `M` is even
    subst hq
    rw [Nat.add_mul, Nat.one_mul] at hlo hhi htie
    rw [if_pos]
    rcases Nat.lt_or_ge d (2 * r) with h | h
    · exact .inl h
    · have := htie (.inl (by omega))
      exact .inr ⟨by omega, by omega⟩

/-- The rounded quotient is less than one away from the ratio. -/
theorem roundHalfEven_near {n d : ℕ} (hd : 0 < d) :
    (roundHalfEven n d : ℚ) - 1 < n / d ∧ (n / d : ℚ) < roundHalfEven n d + 1 := by
  have hdq : (0 : ℚ) < d := by exact_mod_cast hd
  have hdm := Nat.div_add_mod n d
  have hr := Nat.mod_lt n hd
  have hn : (n : ℚ) = (n / d : ℕ) * d + (n % d : ℕ) := by
    rw [← Nat.cast_mul, ← Nat.cast_add, Nat.mul_comm, hdm]
  have hrq : ((n % d : ℕ) : ℚ) < d := by exact_mod_cast hr
  have hr0 : (0 : ℚ) ≤ (n % d : ℕ) := by positivity
  unfold roundHalfEven
  split
  · next h =>
    -- rounded up: the remainder is not zero
    have hpos : 0 < n % d := by omega
    have hpos' : (0 : ℚ) < (n % d : ℕ) := by exact_mod_cast hpos
    push_cast
    constructor
    · rw [lt_div_iff₀ hdq, hn]; nlinarith
    · rw [div_lt_iff₀ hdq, hn]; nlinarith
  · constructor
    · rw [lt_div_iff₀ hdq, hn]; nlinarith
    · rw [div_lt_iff₀ hdq, hn]; nlinarith

/-- A ratio at least half a unit below `M`. -/
theorem half_below_iff {n d M : ℕ} (hd : 0 < d) : (M : ℚ) - 1 / 2 ≤ n / d ↔ 2 * (M * d) ≤ 2 * n + d := by
  rw [le_div_iff₀ (by exact_mod_cast hd), ← Nat.cast_le (α := ℚ)]
  push_cast
  constructor <;> intro h <;> linarith

/-- A ratio at most half a unit above `M`. -/
theorem half_above_iff {n d M : ℕ} (hd : 0 < d) : (n / d : ℚ) ≤ M + 1 / 2 ↔ 2 * n ≤ 2 * (M * d) + d := by
  rw [div_le_iff₀ (by exact_mod_cast hd), ← Nat.cast_le (α := ℚ)]
  push_cast
  constructor <;> intro h <;> linarith

/-- A ratio exactly half a unit from `M`, below or above. -/
theorem half_away_iff {n d M : ℕ} (hd : 0 < d) :
    ((n / d : ℚ) = M - 1 / 2 ∨ (n / d : ℚ) = M + 1 / 2) ↔ (2 * (M * d) = 2 * n + d ∨ 2 * n = 2 * (M * d) + d) := by
  have hdq : (d : ℚ) ≠ 0 := by exact_mod_cast hd.ne'
  rw [div_eq_iff hdq, div_eq_iff hdq, ← Nat.cast_inj (R := ℚ), ← Nat.cast_inj (R := ℚ)]
  push_cast
  constructor <;> rintro (h | h)
  exacts [.inl (by linarith), .inr (by linarith), .inl (by linarith), .inr (by linarith)]

/-! ### `nearest` as a rounding step -/

/-- The ratio that `nearest` rounds, over the last place `2^e` it keeps. -/
theorem scaled_ratio (a c : ℕ) (e : ℤ) :
    ((a * 2 ^ (-e).toNat : ℕ) : ℚ) / ((c * 2 ^ e.toNat : ℕ) : ℚ) = a / c / 2 ^ e := by
  rw [← two_pow_toNat_div e]
  push_cast
  field_simp

/-- `nearest` rounds the ratio at the last place of its binade, or of the smallest
normal binade, and refuses what rounds past the largest double. -/
theorem nearest_eq {a c : ℕ} (ha : a ≠ 0) :
    Dyadic.nearest a c =
      let e := max (Dyadic.binade a c - 52) (-1074)
      let m := roundHalfEven (a * 2 ^ (-e).toNat) (c * 2 ^ e.toNat)
      if 2 ^ 1024 ≤ m * 2 ^ e.toNat then none else some ⟨m, e⟩ := by
  rw [Dyadic.nearest, if_neg ha]
  rfl

/-- When the ratio over the last place `2^e` is within half a unit of `M`, with
a tie only at an even `M`, `nearest` gives `M · 2^e`. -/
theorem nearest_eq_some {a c : ℕ} (ha : 0 < a) (hc : 0 < c) {M : ℕ} {e : ℤ}
    (he : max (Dyadic.binade a c - 52) (-1074) = e) (hlo : (M : ℚ) - 1 / 2 ≤ a / c / 2 ^ e)
    (hhi : (a / c : ℚ) / 2 ^ e ≤ M + 1 / 2)
    (htie : (a / c : ℚ) / 2 ^ e = M - 1 / 2 ∨ (a / c : ℚ) / 2 ^ e = M + 1 / 2 → M % 2 = 0)
    (hfit : M * 2 ^ e.toNat < 2 ^ 1024) : Dyadic.nearest a c = some ⟨M, e⟩ := by
  have hd : 0 < c * 2 ^ e.toNat := Nat.mul_pos hc (Nat.two_pow_pos _)
  rw [← scaled_ratio] at hlo hhi htie
  have hm : roundHalfEven (a * 2 ^ (-e).toNat) (c * 2 ^ e.toNat) = M :=
    roundHalfEven_eq hd ((half_below_iff hd).1 hlo) ((half_above_iff hd).1 hhi)
      (fun h => htie ((half_away_iff hd).2 h))
  rw [nearest_eq ha.ne']
  simp only [he, hm, if_neg (Nat.not_le.2 hfit)]

/-- What `nearest` gives: the last place `2^e` of the binade, or of the smallest
normal binade, and a mantissa less than one unit from the ratio over it, below
`2^1024` as a whole. -/
theorem nearest_some {a c : ℕ} (ha : 0 < a) (hc : 0 < c) {x : Dyadic} (h : Dyadic.nearest a c = some x) :
    x.exp = max (Dyadic.binade a c - 52) (-1074) ∧ (x.mant : ℚ) - 1 < a / c / 2 ^ x.exp ∧
      (a / c : ℚ) / 2 ^ x.exp < x.mant + 1 ∧ x.mant * 2 ^ x.exp.toNat < 2 ^ 1024 := by
  rw [nearest_eq ha.ne'] at h
  simp only at h
  split at h
  · cases h
  · next hfit =>
    cases h
    have hd : 0 < c * 2 ^ (max (Dyadic.binade a c - 52) (-1074)).toNat := Nat.mul_pos hc (Nat.two_pow_pos _)
    obtain ⟨h₁, h₂⟩ := roundHalfEven_near (n := a * 2 ^ (-(max (Dyadic.binade a c - 52) (-1074))).toNat) hd
    rw [scaled_ratio] at h₁ h₂
    exact ⟨rfl, h₁, h₂, Nat.lt_of_not_le hfit⟩

/-! ### Doubles and the reals they stand for -/

/-- How far below its value the reals read as a double reach, in units of its last
place: a quarter at the first mantissa of a binade above the smallest, where the
neighbour below is half as far, and a half otherwise. -/
def Binary.lowReach (b : Binary) : ℚ := if b.lowerHalfGap then 1 / 4 else 1 / 2

/-- The magnitudes read as the double with parts `b`, in units of its last place:
from `lowReach` below the mantissa to half a unit above it, the ends included when
the mantissa is even. -/
def Binary.Reads (b : Binary) (x : ℚ) : Prop :=
  if b.mant % 2 = 0 then b.mant - b.lowReach ≤ x / 2 ^ b.exp ∧ x / 2 ^ b.exp ≤ b.mant + 1 / 2
  else b.mant - b.lowReach < x / 2 ^ b.exp ∧ x / 2 ^ b.exp < b.mant + 1 / 2

/-- The parts of a double as a reader takes it apart. -/
inductive Binary.Valid : Binary → Prop
  /-- Zero or a subnormal double: the smallest exponent, a mantissa below `2^52`. -/
  | low {neg : Bool} {m : ℕ} (hm : m < 2 ^ 52) : Binary.Valid ⟨neg, m, -1074, false⟩
  /-- A normal double: a mantissa of 53 bits; the neighbour below is half as far
  exactly at the first mantissa of a binade above the smallest. -/
  | normal {neg : Bool} {m : ℕ} {e : ℤ} (hlo : 2 ^ 52 ≤ m) (hhi : m < 2 ^ 53) (he : -1074 ≤ e)
      (he' : e ≤ 971) : Binary.Valid ⟨neg, m, e, decide (m = 2 ^ 52 ∧ -1074 < e)⟩

/-- The reals read as a double lie between half its last mantissa below and half
above: both reaches are at most a half. -/
theorem Binary.Reads.bounds {b : Binary} {x : ℚ} (h : b.Reads x) :
    b.mant - b.lowReach ≤ x / 2 ^ b.exp ∧ x / 2 ^ b.exp ≤ b.mant + 1 / 2 := by
  unfold Binary.Reads at h
  split at h
  · exact h
  · exact ⟨h.1.le, h.2.le⟩

theorem Binary.lowReach_le (b : Binary) : b.lowReach ≤ 1 / 2 := by
  unfold Binary.lowReach; split <;> norm_num

/-- At exactly half a unit from an odd mantissa nothing reads as the double. -/
theorem Binary.Reads.even_of_tie {b : Binary} {x : ℚ} (h : b.Reads x)
    (ht : x / 2 ^ b.exp = b.mant - 1 / 2 ∨ x / 2 ^ b.exp = b.mant + 1 / 2) : b.mant % 2 = 0 := by
  by_contra hodd
  unfold Binary.Reads at h
  rw [if_neg hodd] at h
  have := b.lowReach_le
  rcases ht with ht | ht <;> rw [ht] at h <;> linarith [h.1, h.2]

theorem Binary.Reads.pos {b : Binary} (hm : 0 < b.mant) {x : ℚ} (h : b.Reads x) : 0 < x := by
  have h₁ := h.bounds.1
  have h₂ := b.lowReach_le
  have hm' : (1 : ℚ) ≤ b.mant := by exact_mod_cast hm
  have : 0 < x / 2 ^ b.exp := by linarith
  exact (div_pos_iff_of_pos_right (zpow_pos (by norm_num) _)).1 this

theorem two_zpow_lt_iff {s t : ℤ} : (2 : ℚ) ^ s < 2 ^ t ↔ s < t :=
  zpow_lt_zpow_iff_right₀ (by norm_num)

/-- The last place that `nearest` keeps for a ratio read as the double `b`: that of
`b`, or one place lower when the ratio falls below the first mantissa of `b`'s binade. -/
theorem lastPlace_of_reads {b : Binary} (hb : b.Valid) (hm : 0 < b.mant) {x : ℚ} (hr : b.Reads x) {t : ℤ}
    (ht : 2 ^ t ≤ x ∧ x < 2 ^ (t + 1)) :
    max (t - 52) (-1074) = b.exp ∨
      (max (t - 52) (-1074) = b.exp - 1 ∧ b.mant = 2 ^ 52 ∧ b.lowerHalfGap = true ∧ x < 2 ^ (b.exp + 52)) := by
  obtain ⟨hlo, hhi⟩ := hr.bounds
  have hreach := b.lowReach_le
  cases hb with
  | @low neg m hm52 =>
    -- below `2^-1022`: the last place is the smallest
    left
    have hx : x < 2 ^ (-1022 : ℤ) := by
      have : x / 2 ^ (-1074 : ℤ) < 2 ^ 52 := by
        have : (m : ℚ) + 1 ≤ 2 ^ 52 := by exact_mod_cast hm52
        simp only at hhi
        linarith
      rw [div_lt_iff₀ (zpow_pos (by norm_num) _)] at this
      calc x < 2 ^ 52 * 2 ^ (-1074 : ℤ) := this
        _ = 2 ^ (-1022 : ℤ) := by rw [← zpow_natCast, ← zpow_add₀ (by norm_num)]; norm_num
    have := two_zpow_lt_iff.1 (lt_of_le_of_lt ht.1 hx)
    simp only
    omega
  | @normal neg m e h52 h53 he he' =>
    simp only at hlo hhi hm ⊢
    have hpos : (0 : ℚ) < 2 ^ e := zpow_pos (by norm_num) _
    have hlo' : (m : ℚ) - 1 / 2 ≤ x / 2 ^ e := by linarith
    have hm52 : ((2 ^ 52 : ℕ) : ℚ) ≤ m := by exact_mod_cast h52
    have hm53 : (m : ℚ) < ((2 ^ 53 : ℕ) : ℚ) := by exact_mod_cast h53
    have hm53' : (m : ℚ) + 1 ≤ ((2 ^ 53 : ℕ) : ℚ) := by exact_mod_cast h53
    push_cast at hm52 hm53 hm53'
    -- the ratio lies between `2^(e+51)` and `2^(e+53)`
    have hx₁ : 2 ^ (e + 51) < x := by
      rw [le_div_iff₀ hpos] at hlo'
      rw [zpow_add₀ (by norm_num)]
      norm_num at hlo' ⊢
      nlinarith
    have hx₂ : x < 2 ^ (e + 53) := by
      rw [div_le_iff₀ hpos] at hhi
      rw [zpow_add₀ (by norm_num)]
      norm_num at hhi ⊢
      nlinarith
    have ht₁ := two_zpow_lt_iff.1 (lt_of_le_of_lt ht.1 hx₂)
    have ht₂ := two_zpow_lt_iff.1 (lt_trans hx₁ ht.2)
    rcases (show t = e + 52 ∨ t = e + 51 by omega) with rfl | rfl
    · left; omega
    · rcases (show e = -1074 ∨ -1074 < e by omega) with rfl | he₁
      · left; omega
      · -- one place lower: the ratio is below `2^(e+52)`, so the mantissa is `2^52`
        right
        have hx₃ : x < 2 ^ (e + 52) := by simpa [add_assoc] using ht.2
        have hm₁ : m = 2 ^ 52 := by
          have : x / 2 ^ e < 2 ^ 52 := by
            rw [div_lt_iff₀ hpos, ← zpow_natCast, ← zpow_add₀ (by norm_num)]
            simpa [add_comm] using hx₃
          have : (m : ℚ) < 2 ^ 52 + 1 := by linarith
          have : m < 2 ^ 52 + 1 := by exact_mod_cast this
          omega
        exact ⟨by omega, hm₁, by simp [hm₁, he₁], by simpa [add_comm] using hx₃⟩

/-- A valid double is below `2^1024`. -/
theorem Binary.Valid.fits {b : Binary} (hb : b.Valid) : b.mant * 2 ^ b.exp.toNat < 2 ^ 1024 := by
  cases hb with
  | low hm => simp only [show (-1074 : ℤ).toNat = 0 by rfl, Nat.pow_zero, Nat.mul_one]; omega
  | @normal neg m e h52 h53 he he' =>
    calc m * 2 ^ e.toNat < 2 ^ 53 * 2 ^ e.toNat := Nat.mul_lt_mul_of_pos_right h53 (Nat.two_pow_pos _)
      _ ≤ 2 ^ 53 * 2 ^ 971 := Nat.mul_le_mul_left _ (Nat.pow_le_pow_right (by norm_num) (by omega))
      _ = 2 ^ 1024 := by rw [← Nat.pow_add]

/-- A valid double with a mantissa below `2^53` is taken apart into itself. -/
theorem Binary.Valid.ofDyadic_self {b : Binary} (hb : b.Valid) : Binary.ofDyadic b.neg ⟨b.mant, b.exp⟩ = b := by
  cases hb with
  | low hm =>
    simp only [Binary.ofDyadic, Nat.pow_eq]
    rw [if_neg (by omega)]
    simp
  | normal h52 h53 he he' =>
    simp only [Binary.ofDyadic, Nat.pow_eq]
    rw [if_neg (by omega)]

/-- Every ratio read as a valid double with a nonzero mantissa rounds to that double. -/
theorem nearest_of_reads {b : Binary} (hb : b.Valid) (hm : 0 < b.mant) {a c : ℕ} (hc : 0 < c)
    (hr : b.Reads (a / c)) : ∃ x, Dyadic.nearest a c = some x ∧ Binary.ofDyadic b.neg x = b := by
  have hx := hr.pos hm
  have ha : 0 < a := by
    rcases Nat.eq_zero_or_pos a with rfl | h
    · simp at hx
    · exact h
  obtain ⟨hlo, hhi⟩ := hr.bounds
  have hreach := b.lowReach_le
  rcases lastPlace_of_reads hb hm hr (binade_spec ha hc) with he | ⟨he, hm52, hgap, hlt⟩
  · -- at the last place of `b`, the ratio rounds to `b`'s own mantissa
    exact ⟨⟨b.mant, b.exp⟩, nearest_eq_some ha hc he (by linarith) hhi hr.even_of_tie hb.fits,
      hb.ofDyadic_self⟩
  · -- one place lower, the ratio rounds up to `2^53`, the first mantissa of `b`'s binade
    have hpos : (0 : ℚ) < 2 ^ (b.exp - 1) := zpow_pos (by norm_num) _
    have hhalf : (a / c : ℚ) / 2 ^ (b.exp - 1) = 2 * ((a / c : ℚ) / 2 ^ b.exp) := by
      rw [zpow_sub₀ (by norm_num), zpow_one]
      field_simp
    have hreach' : b.lowReach = 1 / 4 := by simp [Binary.lowReach, hgap]
    have hbelow : (a / c : ℚ) / 2 ^ (b.exp - 1) < 2 ^ 53 := by
      rw [div_lt_iff₀ hpos, ← zpow_natCast, ← zpow_add₀ (by norm_num),
        show ((53 : ℕ) : ℤ) + (b.exp - 1) = b.exp + 52 by push_cast; ring]
      exact hlt
    have he' : b.exp ≤ 971 := by
      cases hb with
      | low hm' => simp at hm52; omega
      | normal _ _ _ he' => exact he'
    refine ⟨⟨2 ^ 53, b.exp - 1⟩, nearest_eq_some ha hc he ?_ ?_ (fun _ => by norm_num) ?_, ?_⟩
    · rw [hhalf]
      rw [hreach', hm52] at hlo
      push_cast at hlo ⊢
      linarith
    · push_cast; linarith
    · calc 2 ^ 53 * 2 ^ (b.exp - 1).toNat ≤ 2 ^ 53 * 2 ^ 970 :=
            Nat.mul_le_mul_left _ (Nat.pow_le_pow_right (by norm_num) (by omega))
        _ < 2 ^ 1024 := by rw [← Nat.pow_add]; exact Nat.pow_lt_pow_right (by norm_num) (by norm_num)
    · obtain ⟨neg, mant, exp, gap⟩ := b
      simp only at hm52 hgap ⊢
      subst hm52 hgap
      simp [Binary.ofDyadic]

/-- Whatever `nearest` gives for a positive ratio is taken apart into valid parts. -/
theorem ofDyadic_valid {a c : ℕ} (ha : 0 < a) (hc : 0 < c) {x : Dyadic} (h : Dyadic.nearest a c = some x)
    (neg : Bool) : (Binary.ofDyadic neg x).Valid := by
  obtain ⟨he, hm₁, hm₂, hfit⟩ := nearest_some ha hc h
  obtain ⟨ht₁, ht₂⟩ := binade_spec ha hc
  obtain ⟨m, e⟩ := x
  simp only at he hm₁ hm₂ hfit
  have hpos : (0 : ℚ) < 2 ^ e := zpow_pos (by norm_num) _
  -- the exponent is at most 971 once the mantissa has 53 bits
  have he' : 2 ^ 52 ≤ m → e ≤ 970 ∨ (e ≤ 971 ∧ m < 2 ^ 53) := by
    intro h52
    rcases le_or_gt e 0 with h0 | h0
    · left; omega
    · have hk : e.toNat ≤ 971 := by
        by_contra hk
        have : 2 ^ 52 * 2 ^ 972 ≤ m * 2 ^ e.toNat :=
          Nat.mul_le_mul h52 (Nat.pow_le_pow_right (by norm_num) (by omega))
        have : (2 : ℕ) ^ 52 * 2 ^ 972 ≥ 2 ^ 1024 := by rw [← Nat.pow_add]
        omega
      rcases Nat.lt_or_ge m (2 ^ 53) with h53 | h53
      · right; exact ⟨by omega, h53⟩
      · left
        by_contra hk'
        have : 2 ^ 53 * 2 ^ 971 ≤ m * 2 ^ e.toNat :=
          Nat.mul_le_mul h53 (Nat.pow_le_pow_right (by norm_num) (by omega))
        have : (2 : ℕ) ^ 53 * 2 ^ 971 ≥ 2 ^ 1024 := by rw [← Nat.pow_add]
        omega
  rcases le_or_gt (-1074) (Dyadic.binade a c - 52) with hn | hs
  · -- the ratio's binade is normal: over its last place it lies in `[2^52, 2^53)`
    have he₁ : e = Dyadic.binade a c - 52 := by omega
    have hy₁ : (2 : ℚ) ^ 52 ≤ a / c / 2 ^ e := by
      rw [le_div_iff₀ hpos, ← zpow_natCast, ← zpow_add₀ (by norm_num), he₁]
      simpa using ht₁
    have hy₂ : (a / c : ℚ) / 2 ^ e < 2 ^ 53 := by
      rw [div_lt_iff₀ hpos, ← zpow_natCast, ← zpow_add₀ (by norm_num), he₁,
        show ((53 : ℕ) : ℤ) + (Dyadic.binade a c - 52) = Dyadic.binade a c + 1 by push_cast; ring]
      exact ht₂
    have h52 : 2 ^ 52 ≤ m := by
      have : ((2 ^ 52 : ℕ) : ℚ) < m + 1 := by push_cast; linarith
      exact Nat.lt_succ_iff.1 (by exact_mod_cast this)
    have h53 : m ≤ 2 ^ 53 := by
      have : (m : ℚ) < ((2 ^ 53 : ℕ) : ℚ) + 1 := by push_cast; linarith
      exact Nat.lt_succ_iff.1 (by exact_mod_cast this)
    rcases Nat.lt_or_ge m (2 ^ 53) with h53' | h53'
    · simp only [Binary.ofDyadic, Nat.pow_eq, if_neg (Nat.ne_of_lt h53')]
      rcases he' h52 with he'' | he'' <;> exact .normal h52 h53' (by omega) (by omega)
    · -- rounded up to the next binade
      have hm : m = 2 ^ 53 := by omega
      subst hm
      rcases he' h52 with he'' | ⟨_, h⟩
      · have := @Binary.Valid.normal neg (2 ^ 52) (e + 1) (le_refl _) (by norm_num) (by omega) (by omega)
        simpa [Binary.ofDyadic, show -1074 < e + 1 by omega] using this
      · omega
  · -- below the normal binades: the last place is the smallest and the mantissa at most `2^52`
    have he₁ : e = -1074 := by omega
    have hy₂ : (a / c : ℚ) / 2 ^ e < 2 ^ 52 := by
      rw [div_lt_iff₀ hpos, ← zpow_natCast, ← zpow_add₀ (by norm_num), he₁]
      calc (a / c : ℚ) < 2 ^ (Dyadic.binade a c + 1) := ht₂
        _ ≤ 2 ^ ((52 : ℕ) + (-1074 : ℤ)) := zpow_le_zpow_right₀ (by norm_num) (by omega)
    have h52 : m ≤ 2 ^ 52 := by
      have : (m : ℚ) < ((2 ^ 52 : ℕ) : ℚ) + 1 := by push_cast; linarith
      exact Nat.lt_succ_iff.1 (by exact_mod_cast this)
    subst he₁
    simp only [Binary.ofDyadic, Nat.pow_eq, if_neg (show m ≠ 2 ^ 53 by omega)]
    rcases Nat.lt_or_ge m (2 ^ 52) with h | h
    · simpa [show m ≠ 2 ^ 52 by omega] using @Binary.Valid.low neg m h
    · exact .normal h (by omega) le_rfl (by norm_num)

end NetFleet.Decimal
