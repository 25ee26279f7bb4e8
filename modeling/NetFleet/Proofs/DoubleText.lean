import Mathlib
import NetFleet.Proofs.DoubleRounding
import NetFleet.Proofs.NumeralText
import NetFleet.Proofs.LogQuery
import NetFleet.Decimal.Data

/-!
# The text of a double reads back as the double

A number of a data document is read as the nearest double and written back in
the data layout (`dataText?`). Written text reads back as the same text:

    dataText? lit = some t → dataText? t = some t

(`dataText?_dataText`), and it is always a JSON number (`dataText?_numText`).
Three facts make the first so.

* The decimal that `Binary.shortest` picks lies in the interval of reals read as
  the double, since the search only takes grid points inside it and its last
  resort is the exact value (`shortest_reads`).
* Both layouts of the digits, positional and with an exponent, read back as that
  decimal (`positional_parse`, `scientific_parse`).
* A literal whose value reads as a valid double rounds to it (`binary?_of_reads`,
  from `nearest_of_reads`), and every double a literal rounds to is valid
  (`binary?_valid`).
-/

namespace NetFleet.Decimal

/-! ### The interval of a double -/

theorem Binary.interval_low_val {b : Binary} (hm : 0 < b.mant) :
    b.interval.low.val = (b.mant - b.lowReach) * 2 ^ b.exp := by
  have hgap : (if b.lowerHalfGap then 1 else 2) ≤ 4 * b.mant := by split <;> omega
  have hN : ((2 ^ (-b.exp).toNat : ℕ) : ℚ) ≠ 0 := by positivity
  simp only [Binary.interval, Ratio.val, Nat.pow_eq]
  rw [← two_pow_toNat_div b.exp, Nat.cast_mul, Nat.cast_mul, Nat.cast_sub hgap, Binary.lowReach]
  field_simp
  split <;> push_cast <;> ring

theorem Binary.interval_high_val (b : Binary) :
    b.interval.high.val = (b.mant + 1 / 2) * 2 ^ b.exp := by
  have hN : ((2 ^ (-b.exp).toNat : ℕ) : ℚ) ≠ 0 := by positivity
  simp only [Binary.interval, Ratio.val, Nat.pow_eq]
  rw [← two_pow_toNat_div b.exp]
  field_simp
  push_cast
  ring

/-- The interval of a double holds exactly the ratios read as it. -/
theorem Binary.interval_contains_iff {b : Binary} (hm : 0 < b.mant) {r : Ratio} (hr : 0 < r.den) :
    b.interval.contains r = true ↔ b.Reads r.val := by
  have hden : 0 < b.interval.low.den ∧ 0 < b.interval.high.den := by
    simp only [Binary.interval, Nat.pow_eq]
    exact ⟨Nat.mul_pos (Nat.two_pow_pos _) (by norm_num), Nat.mul_pos (Nat.two_pow_pos _) (by norm_num)⟩
  have hpos : (0 : ℚ) < 2 ^ b.exp := zpow_pos (by norm_num) _
  have hclosed : b.interval.closed = decide (b.mant % 2 = 0) := rfl
  unfold Interval.contains Binary.Reads
  rw [hclosed]
  by_cases he : b.mant % 2 = 0
  · simp only [he, decide_true, ↓reduceIte, Bool.and_eq_true, Ratio.le_iff hden.1 hr,
      Ratio.le_iff hr hden.2, Binary.interval_low_val hm, Binary.interval_high_val, le_div_iff₀ hpos,
      div_le_iff₀ hpos]
  · simp only [he, decide_false, Bool.false_eq_true, ↓reduceIte, Bool.and_eq_true, Ratio.lt_iff hden.1 hr,
      Ratio.lt_iff hr hden.2, Binary.interval_low_val hm, Binary.interval_high_val, lt_div_iff₀ hpos,
      div_lt_iff₀ hpos]

/-- A double reads as itself. -/
theorem Binary.reads_self {b : Binary} : b.Reads (b.mant * 2 ^ b.exp) := by
  have hpos : (0 : ℚ) < 2 ^ b.exp := zpow_pos (by norm_num) _
  have hreach : 0 < b.lowReach := by unfold Binary.lowReach; split <;> norm_num
  unfold Binary.Reads
  rw [mul_div_cancel_right₀ _ hpos.ne']
  split
  · exact ⟨by linarith, by linarith⟩
  · exact ⟨by linarith, by linarith⟩

/-! ### The shortest decimal -/

/-- A grid point that `pickOnGrid` takes lies in the interval. -/
theorem pickOnGrid_contains {i : Interval} {k : ℤ} {q : ℕ} (h : pickOnGrid i k = some q) :
    i.contains (Ratio.scaled q k) = true := by
  dsimp only [pickOnGrid] at h
  split at h
  · cases h
  · next hl _ => cases h; exact hl
  · next _ hh => cases h; exact hh
  · next hl hh => split_ifs at h <;> (cases h; assumption)

/-- Stripping trailing zeros keeps the value of a decimal. -/
theorem normalize_value (fuel q : ℕ) (k : ℤ) :
    ((normalize fuel q k).1 : ℚ) * 10 ^ (normalize fuel q k).2 = q * 10 ^ k := by
  induction fuel generalizing q k with
  | zero => rfl
  | succ fuel ih =>
    unfold normalize
    split
    · next h =>
      rw [ih, zpow_add_one₀ (by norm_num)]
      have : q = q / 10 * 10 := (Nat.div_mul_cancel (Nat.dvd_of_mod_eq_zero h.2)).symm
      conv_rhs => rw [this]
      push_cast
      ring
    · rfl

/-- The exact decimal value of a double is its value. -/
theorem Binary.exactDecimal_value (b : Binary) :
    (b.exactDecimal.1 : ℚ) * 10 ^ b.exactDecimal.2 = b.mant * 2 ^ b.exp := by
  unfold Binary.exactDecimal
  split
  · next he =>
    obtain ⟨n, hn⟩ := Int.eq_ofNat_of_zero_le he
    simp [hn]
  · next he =>
    obtain ⟨n, hn⟩ := Int.exists_eq_neg_ofNat (le_of_lt (not_le.1 he))
    rw [hn]
    simp only [neg_neg, Int.toNat_natCast, Nat.pow_eq, Nat.cast_mul, Nat.cast_pow, Nat.cast_ofNat, zpow_neg,
      zpow_natCast]
    rw [show (10 : ℚ) = 2 * 5 by norm_num, mul_pow]
    field_simp

theorem Ratio.scaled_den_pos (q : ℕ) (k : ℤ) : 0 < (Ratio.scaled q k).den := by
  unfold Ratio.scaled
  split
  · exact Nat.one_pos
  · simp only [Nat.pow_eq]; positivity

/-- The decimal that the search for the shortest digits settles on reads as the double. -/
theorem Binary.shortest_reads {b : Binary} (hm : 0 < b.mant) :
    b.Reads (b.shortest.1 * 10 ^ b.shortest.2) := by
  suffices h : ∀ fuel n, b.Reads ((shortest.search b b.interval (floorLog10 b.interval.value) fuel n).1 *
      10 ^ (shortest.search b b.interval (floorLog10 b.interval.value) fuel n).2) from h 17 1
  intro fuel
  induction fuel with
  | zero =>
    intro n
    simp only [shortest.search, Binary.exactDecimal_value]
    exact Binary.reads_self
  | succ fuel ih =>
    intro n
    simp only [shortest.search]
    split
    · next q hq =>
      rw [normalize_value, ← Ratio.val_scaled]
      exact (Binary.interval_contains_iff hm (Ratio.scaled_den_pos _ _)).1 (pickOnGrid_contains hq)
    · exact ih (n + 1)

/-- The shortest decimal of a double with a nonzero mantissa is positive. -/
theorem Binary.shortest_pos {b : Binary} (hm : 0 < b.mant) : 0 < b.shortest.1 := by
  have hx := (Binary.shortest_reads hm).pos hm
  rcases Nat.eq_zero_or_pos b.shortest.1 with h | h
  · simp [h] at hx
  · exact h

/-! ### Digits and their value -/

/-- A run of decimal digits is below the power of ten of its length. -/
theorem digitsValue_lt {ds : List Char} (hd : ∀ c ∈ ds, c.isDigit = true) : digitsValue ds < 10 ^ ds.length := by
  induction ds using List.reverseRecOn with
  | nil => simp
  | append_singleton ds c ih =>
    have hc : c.toNat - 48 ≤ 9 := by
      have := hd c (by simp)
      have h9 : '9'.val.toNat = 57 := rfl
      simp only [Char.isDigit, Bool.and_eq_true, decide_eq_true_eq] at this
      simp only [Char.toNat, UInt32.le_iff_toNat_le] at this ⊢
      omega
    have := ih (fun x hx => hd x (by simp [hx]))
    rw [Text.digitsValue_append_singleton, List.length_append, List.length_singleton, Nat.pow_succ]
    omega

/-- A positive number lies between the powers of ten around the length of its text. -/
theorem toDigits_bounds {q : ℕ} (hq : 0 < q) :
    10 ^ ((Nat.toDigits 10 q).length - 1) ≤ q ∧ q < 10 ^ (Nat.toDigits 10 q).length := by
  have hlt : q < 10 ^ (Nat.toDigits 10 q).length := by
    conv_lhs => rw [← Text.digitsValue_toDigits q]
    exact digitsValue_lt fun c hc => Text.isDigit_of_mem_toDigits hc
  refine ⟨?_, hlt⟩
  by_contra hle
  have hlen := Nat.toDigits_length 10 q ((Nat.toDigits 10 q).length - 1)
  rcases Nat.eq_zero_or_pos ((Nat.toDigits 10 q).length - 1) with h | h
  · rw [h] at hle; omega
  · have := hlen h (by omega)
    omega

theorem Binary.digits_wf (b : Binary) : b.digits.digits ≠ [] ∧ ∀ c ∈ b.digits.digits, c.isDigit = true := by
  unfold Binary.digits
  split
  · simp
  · exact ⟨Nat.toDigits_ne_nil, fun c hc => Text.isDigit_of_mem_toDigits hc⟩

theorem Binary.digits_value {b : Binary} (hm : 0 < b.mant) : b.digits.value = b.shortest.1 * 10 ^ b.shortest.2 := by
  simp only [Binary.digits, hm.ne', ↓reduceIte, Digits.value, Text.digitsValue_toDigits]
  congr 2
  ring

/-! ### Literals within the range of doubles -/

theorem Literal.ratio_val (l : Literal) : (l.ratio.1 : ℚ) / l.ratio.2 = l.value := by
  unfold Literal.ratio Literal.value
  split
  · next he =>
    obtain ⟨n, hn⟩ := Int.eq_ofNat_of_zero_le he
    simp [hn]
  · next he =>
    obtain ⟨n, hn⟩ := Int.exists_eq_neg_ofNat (le_of_lt (not_le.1 he))
    simp [hn, zpow_neg, div_eq_mul_inv]

theorem Literal.ratio_den_pos (l : Literal) : 0 < l.ratio.2 := by
  unfold Literal.ratio
  split
  · exact Nat.one_pos
  · simp only [Nat.pow_eq]; positivity

/-- A literal's value lies between the powers of ten around its last digit's
place and the length of its digits. -/
theorem Literal.value_bounds {l : Literal} (hm : l.mant ≠ 0) :
    (10 : ℚ) ^ (l.exp + (Nat.toDigits 10 l.mant).length - 1) ≤ l.value ∧
      l.value < 10 ^ (l.exp + (Nat.toDigits 10 l.mant).length) := by
  obtain ⟨hlo, hhi⟩ := toDigits_bounds (Nat.pos_of_ne_zero hm)
  set L := (Nat.toDigits 10 l.mant).length
  have hL : 0 < L := List.length_pos_of_ne_nil Nat.toDigits_ne_nil
  have hpos : (0 : ℚ) < 10 ^ l.exp := zpow_pos (by norm_num) _
  unfold Literal.value
  constructor
  · calc (10 : ℚ) ^ (l.exp + L - 1) = 10 ^ ((L - 1 : ℕ) : ℤ) * 10 ^ l.exp := by
          rw [← zpow_add₀ (by norm_num)]
          congr 1
          push_cast [Nat.one_le_iff_ne_zero.2 hL.ne']
          ring
      _ ≤ l.mant * 10 ^ l.exp := by
          gcongr
          rw [zpow_natCast]
          exact_mod_cast hlo
  · calc (l.mant : ℚ) * 10 ^ l.exp < 10 ^ (L : ℤ) * 10 ^ l.exp := by
          gcongr
          rw [zpow_natCast]
          exact_mod_cast hhi
      _ = 10 ^ (l.exp + L) := by rw [← zpow_add₀ (by norm_num), add_comm]

/-- Between `2^-1075` and `2^1024` the shortcuts of `binary?` for literals far
out of range are not taken: the literal is rounded. -/
theorem Literal.binary?_of_range {l : Literal} (hm : l.mant ≠ 0) (hlo : 2 ^ (-1075 : ℤ) ≤ l.value)
    (hhi : l.value < 2 ^ (1024 : ℤ)) :
    l.binary? = (Dyadic.nearest l.ratio.1 l.ratio.2).map (Binary.ofDyadic l.neg) := by
  obtain ⟨hv₁, hv₂⟩ := Literal.value_bounds hm
  set T := l.exp + ((Nat.toDigits 10 l.mant).length : ℤ)
  have hsmall : ¬ T < -400 := by
    intro hT
    have h401 : (10 : ℚ) ^ (-401 : ℤ) ≤ 2 ^ (-1075 : ℤ) := by
      rw [zpow_neg, zpow_neg, inv_le_inv₀ (by positivity) (by positivity)]
      exact_mod_cast (show (2 : ℕ) ^ 1075 ≤ 10 ^ 401 by decide +kernel)
    have := calc (2 : ℚ) ^ (-1075 : ℤ) ≤ l.value := hlo
      _ < 10 ^ T := hv₂
      _ ≤ 10 ^ (-401 : ℤ) := zpow_le_zpow_right₀ (by norm_num) (by omega)
      _ ≤ 2 ^ (-1075 : ℤ) := h401
    exact lt_irrefl _ this
  have hlarge : ¬ 400 < T := by
    intro hT
    have h400 : (2 : ℚ) ^ (1024 : ℤ) ≤ 10 ^ (400 : ℤ) := by
      exact_mod_cast (show (2 : ℕ) ^ 1024 ≤ 10 ^ 400 by decide +kernel)
    have := calc (2 : ℚ) ^ (1024 : ℤ) ≤ 10 ^ (400 : ℤ) := h400
      _ ≤ 10 ^ (T - 1) := zpow_le_zpow_right₀ (by norm_num) (by omega)
      _ ≤ l.value := hv₁
      _ < 2 ^ (1024 : ℤ) := hhi
    exact lt_irrefl _ this
  unfold Literal.binary?
  rw [if_neg (by simp only [not_or]; exact ⟨hm, hsmall⟩), if_neg hlarge]

/-! ### Literals read as a double -/

theorem Binary.Valid.exp_range {b : Binary} (hb : b.Valid) : -1074 ≤ b.exp ∧ b.exp ≤ 971 ∧ b.mant < 2 ^ 53 := by
  cases hb with
  | low hm => exact ⟨le_refl _, by norm_num, by simp only; omega⟩
  | normal _ h53 he he' => exact ⟨he, he', h53⟩

/-- The reals read as a valid double with a nonzero mantissa lie between
`2^-1075` and `2^1024`. -/
theorem Binary.Reads.range {b : Binary} (hb : b.Valid) (hm : 0 < b.mant) {x : ℚ} (hr : b.Reads x) :
    2 ^ (-1075 : ℤ) ≤ x ∧ x < 2 ^ (1024 : ℤ) := by
  obtain ⟨hlo, hhi⟩ := hr.bounds
  obtain ⟨he, he', h53⟩ := hb.exp_range
  have hreach := b.lowReach_le
  have hpos : (0 : ℚ) < 2 ^ b.exp := zpow_pos (by norm_num) _
  have hm₁ : (1 : ℚ) ≤ b.mant := by exact_mod_cast hm
  have hm₂ : (b.mant : ℚ) + 1 ≤ 2 ^ 53 := by exact_mod_cast h53
  constructor
  · -- at least half the last place of the double
    have : (1 / 2 : ℚ) ≤ x / 2 ^ b.exp := by linarith
    rw [le_div_iff₀ hpos] at this
    calc (2 : ℚ) ^ (-1075 : ℤ) ≤ 2 ^ (b.exp - 1) := zpow_le_zpow_right₀ (by norm_num) (by omega)
      _ = 1 / 2 * 2 ^ b.exp := by rw [zpow_sub₀ (by norm_num), zpow_one]; ring
      _ ≤ x := this
  · -- below the mantissa `2^53` at the last place of the double
    have : x / 2 ^ b.exp < 2 ^ 53 := by linarith
    rw [div_lt_iff₀ hpos] at this
    calc x < 2 ^ 53 * 2 ^ b.exp := this
      _ = 2 ^ (b.exp + 53) := by rw [zpow_add₀ (by norm_num), mul_comm]; norm_num
      _ ≤ 2 ^ (1024 : ℤ) := zpow_le_zpow_right₀ (by norm_num) (by omega)

/-- A literal whose value reads as a valid double with a nonzero mantissa, of the
same sign, is read as that double. -/
theorem Literal.binary?_of_reads {l : Literal} {b : Binary} (hb : b.Valid) (hm : 0 < b.mant)
    (hr : b.Reads l.value) (hneg : l.neg = b.neg) : l.binary? = some b := by
  obtain ⟨hlo, hhi⟩ := hr.range hb hm
  have hl : l.mant ≠ 0 := mt Literal.value_eq_zero.2 (hr.pos hm).ne'
  obtain ⟨x, hx, hxb⟩ := nearest_of_reads hb hm l.ratio_den_pos (by rw [Literal.ratio_val]; exact hr)
  rw [Literal.binary?_of_range hl hlo hhi, hx, Option.map_some, hneg, hxb]

/-- Every double a literal is read as is valid. -/
theorem Literal.binary?_valid {l : Literal} {b : Binary} (h : l.binary? = some b) : b.Valid := by
  simp only [Literal.binary?] at h
  split_ifs at h with h₀ h₁
  · cases h
    exact Binary.Valid.low (by norm_num)
  · obtain ⟨x, hx, rfl⟩ := Option.map_eq_some_iff.1 h
    have ha : 0 < l.ratio.1 := by
      unfold Literal.ratio
      split
      · exact Nat.mul_pos (Nat.pos_of_ne_zero (not_or.1 h₀).1) (by simp only [Nat.pow_eq]; positivity)
      · exact Nat.pos_of_ne_zero (not_or.1 h₀).1
    exact ofDyadic_valid ha l.ratio_den_pos hx l.neg

/-! ### Written doubles read back -/

theorem Binary.digits_neg (b : Binary) : b.digits.neg = b.neg := by
  unfold Binary.digits
  split <;> rfl

/-- The text of a double reads back as a literal of its sign and the value of its
shortest digits, in either layout. -/
theorem Binary.dataText_parse (b : Binary) :
    ∃ l, Literal.parse? b.dataText = some l ∧ l.neg = b.neg ∧ l.value = b.digits.value := by
  obtain ⟨hne, hd⟩ := b.digits_wf
  rw [← b.digits_neg]
  unfold Binary.dataText
  split
  · exact Digits.positional_parse hne hd
  · exact Digits.scientific_parse hne hd 1

/-- The text of a valid double is read as that double. -/
theorem Binary.dataText_binary? {b : Binary} (hb : b.Valid) :
    ∃ l, Literal.parse? b.dataText = some l ∧ l.binary? = some b := by
  obtain ⟨l, hl, hneg, hval⟩ := b.dataText_parse
  refine ⟨l, hl, ?_⟩
  rcases Nat.eq_zero_or_pos b.mant with h0 | hm
  · -- zero is written `0` and read as zero of the same sign
    have hz : b = ⟨b.neg, 0, -1074, false⟩ := by
      cases hb with
      | low => simp_all
      | normal h52 => simp only at h0; omega
    have hlm : l.mant = 0 := by
      rw [← Literal.value_eq_zero, hval]
      simp [Binary.digits, h0, Digits.value, digitsValue]
    rw [hz]
    simp [Literal.binary?, hlm, hneg]
  · exact Literal.binary?_of_reads hb hm (by rw [hval, Binary.digits_value hm]; exact Binary.shortest_reads hm) hneg

/-- The text of a double is a JSON number. -/
theorem Binary.dataText_numText (b : Binary) : Json.NumText b.dataText.toList := by
  obtain ⟨hne, hd⟩ := b.digits_wf
  rcases Nat.eq_zero_or_pos b.mant with h0 | hm
  · -- zero is written `0`, with its sign
    have hz : b.dataText.toList = (if b.neg then ['-'] else []) ++ ['0'] := by
      cases hneg : b.neg <;>
        simp [Binary.dataText, Binary.dataPositional, h0, Binary.digits, Digits.positional, hneg]
    rw [hz]
    refine ⟨if b.neg then ['-'] else [], ['0'], [], [], by simp, ?_, .inl rfl, .inl rfl, .inl rfl⟩
    cases b.neg <;> simp
  · -- otherwise the digits start with the first digit of a positive number
    have hhead : b.digits.digits.head? ≠ some '0' := by
      simp only [Binary.digits, hm.ne', ↓reduceIte]
      exact Json.toDigits_head_ne_zero (Binary.shortest_pos hm)
    unfold Binary.dataText
    split
    · obtain ⟨n, ht, -, -, hw⟩ := Digits.positional_numeral hne hd
      rw [ht, String.toList_ofList]
      exact n.numText (hw.imp_right fun (h : n.whole.head? = b.digits.digits.head?) => h ▸ hhead)
    · obtain ⟨n, ht, -, -, hw⟩ := Digits.scientific_numeral hne hd 1
      rw [ht, String.toList_ofList]
      exact n.numText (.inr (hw ▸ hhead))

/-- Text written for a number literal reads back as itself. -/
theorem dataText?_dataText {lit t : String} (h : dataText? lit = some t) : dataText? t = some t := by
  simp only [dataText?, Option.bind_eq_bind, Option.bind_eq_some_iff, Option.pure_def, Option.some.injEq] at h
  obtain ⟨l, -, b, hb, rfl⟩ := h
  obtain ⟨l', hl', hb'⟩ := Binary.dataText_binary? (Literal.binary?_valid hb)
  simp [dataText?, hl', hb']

/-- Text written for a number literal is a JSON number. -/
theorem dataText?_numText {lit t : String} (h : dataText? lit = some t) : Json.NumText t.toList := by
  simp only [dataText?, Option.bind_eq_bind, Option.bind_eq_some_iff, Option.pure_def, Option.some.injEq] at h
  obtain ⟨l, -, b, -, rfl⟩ := h
  exact b.dataText_numText

end NetFleet.Decimal
