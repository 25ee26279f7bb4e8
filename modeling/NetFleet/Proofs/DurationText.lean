import Mathlib.Data.List.DropRight
import NetFleet.Text.Duration
import NetFleet.Decimal.Read
import NetFleet.Proofs.WholeDoubles
import NetFleet.Proofs.VlanNames

/-!
# Reading back the text of a duration

`Duration.show` writes a duration in hours, minutes and seconds with a decimal
fraction of a second, or below a second in milliseconds, microseconds or
nanoseconds, and `Duration.read` reads such text. The text of every duration
of 64 bits reads back as that duration (`read_show`):

    Duration.read (Duration.show d) = .ok d      for -2^63 ≤ d < 2^63

The text is a sign and then pieces, each a whole number, the digits of a
fraction and a unit (`Piece`, `show_pieces`). The reader takes one piece a step
(`readPiece_text`), so a run of pieces reads as the sum of their nanoseconds
(`readPieces_texts`). The fraction is scaled into the unit in doubles, and that
is exact here: a written fraction has at most as many digits as the unit has
powers of ten, so each double in the computation is a whole number below
`2^53` (`fractionNanos_whole`). The bounds of the reader are never met, since
every partial sum is at most the duration itself. The other way round, every
duration the reader gives is one of 64 bits (`read_range`).
-/

namespace NetFleet.Text

open Decimal (digitsValue Double Dyadic)

/-! ### The value of a run of digits -/

@[simp] theorem digitsValue_nil : digitsValue [] = 0 := rfl

/-- The fold of the digit reader from any start: the start is shifted past the
digits. -/
theorem foldl_digitsValue (a : Nat) (ds : List Char) :
    ds.foldl (fun acc c => acc * 10 + (c.toNat - '0'.toNat)) a = a * 10 ^ ds.length + digitsValue ds := by
  induction ds generalizing a with
  | nil => simp [digitsValue]
  | cons c ds ih =>
    rw [digitsValue, List.foldl_cons, List.foldl_cons, ih, ih, List.length_cons, Nat.pow_succ]
    ring

theorem digitsValue_append (ds ds' : List Char) :
    digitsValue (ds ++ ds') = digitsValue ds * 10 ^ ds'.length + digitsValue ds' := by
  rw [digitsValue, List.foldl_append, foldl_digitsValue]
  rfl

theorem digitsValue_append_singleton (ds : List Char) (c : Char) :
    digitsValue (ds ++ [c]) = digitsValue ds * 10 + (c.toNat - 48) := by
  rw [digitsValue_append]
  simp only [digitsValue, List.foldl_cons, List.foldl_nil, List.length_singleton, Nat.pow_one,
    Nat.zero_mul, Nat.zero_add]
  rfl

theorem digitsValue_zeros (n : Nat) : digitsValue (List.replicate n '0') = 0 := by
  induction n with
  | zero => rfl
  | succ n ih => rw [List.replicate_succ', digitsValue_append_singleton, ih]; rfl

theorem digitsValue_toDigits (v : Nat) : digitsValue (Nat.toDigits 10 v) = v := by
  rw [digitsValue, Column.foldl_digits]
  exact Column.numeralValue_toString v

theorem isDigit_of_mem_toDigits {c : Char} {v : Nat} (h : c ∈ Nat.toDigits 10 v) : c.isDigit = true :=
  Nat.isDigit_of_mem_toDigits (by decide) (by decide) h

/-- The decimal text of a number starts with a digit. -/
theorem toDigits_cons (v : Nat) : ∃ c cs, Nat.toDigits 10 v = c :: cs ∧ c.isDigit = true := by
  obtain ⟨c, cs, hcs⟩ := List.exists_cons_of_ne_nil (Nat.toDigits_ne_nil (n := v) (b := 10))
  have hmem : c ∈ Nat.toDigits 10 v := by
    rw [hcs]
    exact List.mem_cons_self
  exact ⟨c, cs, hcs, isDigit_of_mem_toDigits hmem⟩

/-! ### Leading numbers -/

theorem takeWhile_eq_nil_of_head {p : Char → Bool} {rest : List Char}
    (h : ∀ c ∈ rest.head?, p c = false) : rest.takeWhile p = [] := by
  cases rest with
  | nil => rfl
  | cons c r => exact List.takeWhile_cons_of_neg (by simp [h c rfl])

/-- Digits are read one after the other with no overflow while the number stays
within `2^63`. -/
theorem foldlM_intStep {ds : List Char} (hv : digitsValue ds ≤ 2 ^ 63) :
    ds.foldlM intStep 0 = some (digitsValue ds) := by
  induction ds using List.reverseRecOn with
  | nil => rfl
  | append_singleton ds c ih =>
    rw [digitsValue_append_singleton] at hv
    rw [List.foldlM_append, ih (by omega), digitsValue_append_singleton]
    simp only [Option.bind_eq_bind, Option.bind_some, List.foldlM_cons, List.foldlM_nil, intStep]
    rw [if_neg (by simp only [Nat.pow_eq]; omega), if_neg (by simp only [Nat.pow_eq]; omega)]
    rfl

/-- The digits of a fraction are read with no overflow while it stays below `2^63`. -/
theorem foldl_fractionStep {ds : List Char} (hv : digitsValue ds < 2 ^ 63) :
    ds.foldl fractionStep (0, 0, false) = (digitsValue ds, ds.length, false) := by
  induction ds using List.reverseRecOn with
  | nil => rfl
  | append_singleton ds c ih =>
    rw [digitsValue_append_singleton] at hv
    rw [List.foldl_append, ih (by omega), digitsValue_append_singleton]
    simp only [List.foldl_cons, List.foldl_nil, fractionStep, Bool.false_eq_true, if_false,
      List.length_append, List.length_singleton]
    rw [if_neg (by simp only [Nat.pow_eq]; omega), if_neg (by simp only [Nat.pow_eq]; omega)]

theorem leadingInt_append {ds rest : List Char} (hd : ∀ c ∈ ds, c.isDigit)
    (hrest : ∀ c ∈ rest.head?, c.isDigit = false) (hv : digitsValue ds ≤ 2 ^ 63) :
    leadingInt (ds ++ rest) = (some (digitsValue ds), rest) := by
  have htake : (ds ++ rest).takeWhile Char.isDigit = ds := by
    rw [List.takeWhile_append_of_pos hd, takeWhile_eq_nil_of_head hrest, List.append_nil]
  simp only [leadingInt, htake, foldlM_intStep hv, List.drop_left]

theorem leadingFraction_append {ds rest : List Char} (hd : ∀ c ∈ ds, c.isDigit)
    (hrest : ∀ c ∈ rest.head?, c.isDigit = false) (hv : digitsValue ds < 2 ^ 63) :
    leadingFraction (ds ++ rest) = (digitsValue ds, ds.length, rest) := by
  have htake : (ds ++ rest).takeWhile Char.isDigit = ds := by
    rw [List.takeWhile_append_of_pos hd, takeWhile_eq_nil_of_head hrest, List.append_nil]
  simp only [leadingFraction, htake, foldl_fractionStep hv, List.drop_left]

/-! ### Fractions scaled in doubles -/

/-- Powers of ten below `2^53` are built exactly. -/
theorem fractionScale_whole {k : Nat} (hk : 10 ^ k < 2 ^ 53) :
    ∃ x, fractionScale k = .finite x ∧ x.IsWhole (10 ^ k) := by
  induction k with
  | zero => exact Double.ofNat_whole (by decide)
  | succ k ih =>
    have hk' : 10 ^ k < 2 ^ 53 := lt_of_le_of_lt (Nat.pow_le_pow_right (by decide) (by omega)) hk
    obtain ⟨x, hx, hw⟩ := ih hk'
    obtain ⟨t, ht, htw⟩ := Double.ofNat_whole (N := 10) (by decide)
    have h10 : 10 ^ k * 10 < 2 ^ 53 := by rw [← Nat.pow_succ]; exact hk
    rw [fractionScale, hx, ht]
    exact Double.mul_whole hw htw h10

/-- A fraction whose share of the unit is a whole number is scaled exactly: the
unit over the power of ten, times the digits, all whole numbers below `2^53`. -/
theorem fractionNanos_whole {f k unit : Nat} (hdiv : 10 ^ k ∣ unit) (hunit0 : 0 < unit)
    (hunit : unit < 2 ^ 53) (hf : f * (unit / 10 ^ k) < 2 ^ 53) (hf' : f < 2 ^ 53) :
    fractionNanos f k unit = f * (unit / 10 ^ k) := by
  have hpos : 0 < 10 ^ k := Nat.pow_pos (by decide)
  obtain ⟨s, hs, hsw⟩ := fractionScale_whole (lt_of_le_of_lt (Nat.le_of_dvd hunit0 hdiv) hunit)
  obtain ⟨u, hu, huw⟩ := Double.ofNat_whole hunit
  obtain ⟨x, hx, hxw⟩ := Double.ofNat_whole hf'
  have hq : unit / 10 ^ k < 2 ^ 53 := lt_of_le_of_lt (Nat.div_le_self _ _) hunit
  obtain ⟨q, hq', hqw⟩ := Double.div_whole (Q := unit / 10 ^ k)
    (by rwa [Nat.div_mul_cancel hdiv]) hsw hpos hq
  obtain ⟨p, hp, hpw⟩ := Double.mul_whole hxw hqw hf
  rw [fractionNanos, hs, hu, hq', hx, hp]
  exact Double.toUInt64_whole hpw (lt_trans hf (by decide))

/-! ### Pieces of text -/

theorem isNumberChar_of_isDigit {c : Char} (h : c.isDigit = true) : isNumberChar c = true := by
  simp only [isNumberChar, Char.isDigit, Bool.or_eq_true, Bool.and_eq_true, decide_eq_true_eq] at *
  exact .inr h

theorem isDigit_of_not_isNumberChar {c : Char} (h : isNumberChar c = false) : c.isDigit = false := by
  cases hd : c.isDigit
  · rfl
  · rw [isNumberChar_of_isDigit hd] at h
    cases h

/-- A unit is a non-empty run of characters that stand in no number, of a
positive count of nanoseconds. -/
theorem unitNanos_some {u : String} {n : Nat} (h : unitNanos u = some n) :
    u.toList ≠ [] ∧ (∀ c ∈ u.toList, isNumberChar c = false) ∧ 0 < n := by
  -- the eight units, checked as closed facts
  have hunit : u.toList.isEmpty = false ∧ u.toList.all (fun c => !isNumberChar c) = true ∧ 0 < n := by
    unfold unitNanos at h
    split at h <;> cases h <;> exact ⟨by decide +kernel, by decide +kernel, by omega⟩
  obtain ⟨hne, hall, hpos⟩ := hunit
  refine ⟨List.isEmpty_eq_false_iff.1 hne, fun c hc => ?_, hpos⟩
  simpa using List.all_eq_true.1 hall c hc

/-- A piece of the text of a duration: a whole number, the digits of its
fraction (written after a point when there are any) and a unit of `scale`
nanoseconds. -/
structure Piece where
  whole : Nat
  frac : List Char
  unit : String
  scale : Nat
  frac_digits : ∀ c ∈ frac, c.isDigit = true
  unit_scale : unitNanos unit = some scale

namespace Piece

/-- The text of the fraction of a piece: a point and its digits, or nothing. -/
def fracText (p : Piece) : List Char := if p.frac = [] then [] else '.' :: p.frac

/-- The text of a piece. -/
def text (p : Piece) : List Char := (toString p.whole).toList ++ (p.fracText ++ p.unit.toList)

/-- The nanoseconds of a piece as the reader computes them, the fraction scaled
in doubles. -/
def nanos (p : Piece) : Nat :=
  p.whole * p.scale +
    if 0 < digitsValue p.frac then fractionNanos (digitsValue p.frac) p.frac.length p.scale else 0

theorem whole_text (p : Piece) : (toString p.whole).toList = Nat.toDigits 10 p.whole :=
  String.toList_ofList

theorem text_head (p : Piece) : ∃ c tail, p.text = c :: tail ∧ c.isDigit = true := by
  obtain ⟨c, ds, hds, hc⟩ := toDigits_cons p.whole
  exact ⟨c, _, by rw [text, whole_text, hds, List.cons_append], hc⟩

theorem two_le_length_text (p : Piece) : 2 ≤ p.text.length := by
  have hw : 0 < (toString p.whole).toList.length := by
    rw [whole_text]
    exact List.length_pos_of_ne_nil Nat.toDigits_ne_nil
  have hu : 0 < p.unit.toList.length := List.length_pos_of_ne_nil (unitNanos_some p.unit_scale).1
  simp only [text, List.length_append]
  omega

theorem nanos_of_frac_nil (p : Piece) (h : p.frac = []) : p.nanos = p.whole * p.scale := by
  rw [nanos, h, digitsValue_nil, if_neg (Nat.lt_irrefl 0), Nat.add_zero]

/-- A unit starts with a character that stands in no number. -/
theorem unit_head (p : Piece) (rest : List Char) :
    ∀ c ∈ (p.unit.toList ++ rest).head?, isNumberChar c = false := by
  obtain ⟨hne, hchars, -⟩ := unitNanos_some p.unit_scale
  obtain ⟨u, us, hu⟩ := List.exists_cons_of_ne_nil hne
  rw [hu, List.cons_append, List.head?_cons]
  intro c hc
  rw [Option.mem_def, Option.some.injEq] at hc
  subst hc
  exact hchars u (by rw [hu]; exact List.mem_cons_self)

/-- A whole number is followed by a point or a unit, neither a digit. -/
theorem fracText_head (p : Piece) (rest : List Char) :
    ∀ c ∈ (p.fracText ++ (p.unit.toList ++ rest)).head?, c.isDigit = false := by
  by_cases hf : p.frac = []
  · rw [fracText, if_pos hf, List.nil_append]
    exact fun c hc => isDigit_of_not_isNumberChar (p.unit_head rest c hc)
  · rw [fracText, if_neg hf, List.cons_append, List.head?_cons]
    intro c hc
    rw [Option.mem_def, Option.some.injEq] at hc
    subst hc
    rfl

end Piece

/-- Pieces one after the other start with a digit, if there are any. -/
theorem head_texts (ps : List Piece) : ∀ c ∈ (ps.flatMap Piece.text).head?, isNumberChar c = true := by
  cases ps with
  | nil => simp
  | cons p ps =>
    obtain ⟨c, tail, htext, hc⟩ := p.text_head
    simp only [List.flatMap_cons, htext, List.cons_append, List.head?_cons, Option.mem_def,
      Option.some.injEq]
    rintro _ rfl
    exact isNumberChar_of_isDigit hc

theorem fractionPart_of_head {r : List Char} (h : ∀ c ∈ r.head?, c ≠ '.') :
    fractionPart r = (0, 0, r, false) := by
  refine fractionPart.eq_2 r fun r' hr => ?_
  subst hr
  exact h '.' rfl rfl

theorem fractionPart_point {fs rest : List Char} (hd : ∀ c ∈ fs, c.isDigit)
    (hrest : ∀ c ∈ rest.head?, c.isDigit = false) (hv : digitsValue fs < 2 ^ 63) :
    fractionPart ('.' :: (fs ++ rest)) =
      (digitsValue fs, fs.length, rest, rest.length != (fs ++ rest).length) := by
  rw [fractionPart.eq_1, leadingFraction_append hd hrest hv]

/-- The fraction of a piece, followed by its unit, reads as the value and the
count of its digits. -/
theorem fractionPart_text (p : Piece) (rest : List Char) (hv : digitsValue p.frac < 2 ^ 63) :
    ∃ post, fractionPart (p.fracText ++ (p.unit.toList ++ rest)) =
      (digitsValue p.frac, p.frac.length, p.unit.toList ++ rest, post) := by
  have hhead := p.unit_head rest
  by_cases hf : p.frac = []
  · -- no point: the unit follows the whole number
    refine ⟨false, ?_⟩
    rw [Piece.fracText, if_pos hf, List.nil_append, hf, fractionPart_of_head]
    · rfl
    · intro c hc hdot
      subst hdot
      exact absurd (hhead '.' hc) (by decide)
  · rw [Piece.fracText, if_neg hf, List.cons_append]
    exact ⟨_, fractionPart_point p.frac_digits
      (fun c hc => isDigit_of_not_isNumberChar (hhead c hc)) hv⟩

theorem takeWhile_unit (p : Piece) {rest : List Char}
    (hrest : ∀ c ∈ rest.head?, isNumberChar c = true) :
    (p.unit.toList ++ rest).takeWhile (fun c => !isNumberChar c) = p.unit.toList := by
  have hchars := (unitNanos_some p.unit_scale).2.1
  rw [List.takeWhile_append_of_pos (fun c hc => by simp [hchars c hc]), takeWhile_eq_nil_of_head,
    List.append_nil]
  intro c hc
  simp [hrest c hc]

/-- A piece followed by the next number, or by nothing, reads as its
nanoseconds, when they are within the bound of the reader. -/
theorem readPiece_text {orig : String} (p : Piece) {c : Char} {tail rest : List Char}
    (h : p.text ++ rest = c :: tail) (hrest : ∀ c ∈ rest.head?, isNumberChar c = true)
    (hf : digitsValue p.frac < 2 ^ 63) (hv : p.nanos ≤ 2 ^ 63) :
    readPiece orig c tail = .ok (p.nanos, rest) := by
  obtain ⟨hne, -, hscale⟩ := unitNanos_some p.unit_scale
  obtain ⟨c', tail', htext, hc'⟩ := p.text_head
  have hc : isNumberChar c = true := by
    rw [htext, List.cons_append, List.cons.injEq] at h
    rw [← h.1]
    exact isNumberChar_of_isDigit hc'
  have hwhole : p.whole * p.scale ≤ 2 ^ 63 := le_trans (Nat.le_add_right _ _) hv
  -- the whole number: its digits, up to the point or the unit
  have hint : leadingInt (c :: tail) = (some p.whole, p.fracText ++ (p.unit.toList ++ rest)) := by
    rw [← h, Piece.text, Piece.whole_text]
    simp only [List.append_assoc]
    rw [leadingInt_append (fun _ hc => isDigit_of_mem_toDigits hc) (p.fracText_head rest)
      (by rw [digitsValue_toDigits]; nlinarith),
      digitsValue_toDigits]
  have hpre : ((p.fracText ++ (p.unit.toList ++ rest)).length != (c :: tail).length) = true := by
    have hw : 0 < (toString p.whole).toList.length := by
      rw [Piece.whole_text]
      exact List.length_pos_of_ne_nil Nat.toDigits_ne_nil
    rw [← h, Piece.text]
    simp only [List.append_assoc, List.length_append, bne_iff_ne, ne_eq]
    omega
  obtain ⟨post, hfrac⟩ := fractionPart_text p rest hf
  have hempty : p.unit.toList.isEmpty = false := List.isEmpty_eq_false_iff.2 hne
  have hfits : ¬p.whole > Nat.pow 2 63 / p.scale := by
    rw [Nat.pow_eq, gt_iff_lt, Nat.not_lt, Nat.le_div_iff_mul_le hscale]
    exact hwhole
  have hsum : (if digitsValue p.frac > 0 then
      p.whole * p.scale + fractionNanos (digitsValue p.frac) p.frac.length p.scale
    else p.whole * p.scale) = p.nanos := by
    unfold Piece.nanos
    split_ifs <;> rfl
  have hbound : ¬p.nanos > Nat.pow 2 63 := by
    rw [Nat.pow_eq]
    omega
  simp only [readPiece, hc, hint, hpre, hfrac, takeWhile_unit p hrest, hempty, List.drop_left,
    String.ofList_toList, p.unit_scale, hfits, hsum, hbound, Bool.not_true, Bool.false_and,
    Bool.false_eq_true, if_false]

/-- Pieces one after the other read as the sum of their nanoseconds, added to
the total, while the sum stays within the bound of the reader and the fuel
lasts: one piece a step. -/
theorem readPieces_texts {orig : String} (ps : List Piece) {fuel total : Nat}
    (hfuel : ps.length ≤ fuel) (hf : ∀ p ∈ ps, digitsValue p.frac < 2 ^ 63)
    (hv : total + (ps.map Piece.nanos).sum ≤ 2 ^ 63) :
    readPieces orig fuel total (ps.flatMap Piece.text) = .ok (total + (ps.map Piece.nanos).sum) := by
  induction ps generalizing fuel total with
  | nil =>
    cases fuel <;> rfl
  | cons p ps ih =>
    obtain ⟨fuel, rfl⟩ : ∃ n, fuel = n + 1 := ⟨fuel - 1, by simp at hfuel; omega⟩
    obtain ⟨c, tail, htext, -⟩ := p.text_head
    have hsum : (List.map Piece.nanos (p :: ps)).sum = p.nanos + (ps.map Piece.nanos).sum :=
      List.sum_cons
    rw [hsum] at hv ⊢
    have hread : readPiece orig c (tail ++ ps.flatMap Piece.text) =
        .ok (p.nanos, ps.flatMap Piece.text) :=
      readPiece_text p (by rw [htext, List.cons_append]) (head_texts ps) (hf p List.mem_cons_self)
        (by omega)
    -- the sum stays below the bound, far from where 64 bits wrap around
    have hwrap : (total + p.nanos) % Nat.pow 2 64 = total + p.nanos := by
      rw [Nat.pow_eq]
      exact Nat.mod_eq_of_lt (by omega)
    have hnext : ¬total + p.nanos > Nat.pow 2 63 := by
      rw [Nat.pow_eq]
      omega
    rw [List.flatMap_cons, htext, List.cons_append, readPieces.eq_3, hread]
    simp only [bind, Except.bind, hwrap, hnext, if_false]
    rw [ih (by simp at hfuel; omega) (fun q hq => hf q (List.mem_cons_of_mem p hq)) (by omega)]
    rw [Nat.add_assoc]

/-! ### The text of a duration -/

/-- Trailing zeros taken off a run of digits leave the digits whose value,
shifted back past the zeros, is that of the run. -/
theorem digitsValue_rdropWhile_zero (ds : List Char) :
    digitsValue ds =
      digitsValue (ds.rdropWhile (· = '0')) * 10 ^ (ds.length - (ds.rdropWhile (· = '0')).length) := by
  have hsplit := List.rdropWhile_append_rtakeWhile (p := (· = '0')) (l := ds)
  have hzeros : ds.rtakeWhile (· = '0') = List.replicate (ds.rtakeWhile (· = '0')).length '0' :=
    List.eq_replicate_iff.2 ⟨rfl, fun c hc => by simpa using List.mem_rtakeWhile_imp hc⟩
  have hlen := congrArg List.length hsplit
  rw [List.length_append] at hlen
  conv_lhs => rw [← hsplit, digitsValue_append, hzeros, digitsValue_zeros]
  rw [Nat.add_zero, List.length_replicate]
  congr 2
  omega

/-- The fraction that `fractionText` writes: digits, at most `prec` of them,
whose value shifted to `prec` places is the remainder below `10 ^ prec`, after
a point when there are any. -/
theorem fractionText_eq (v prec : Nat) :
    ∃ fs : List Char, (∀ c ∈ fs, c.isDigit = true) ∧ fs.length ≤ prec ∧
      digitsValue fs * 10 ^ (prec - fs.length) = v % 10 ^ prec ∧
      fractionText v prec = (String.ofList (if fs = [] then [] else '.' :: fs), v / 10 ^ prec) := by
  by_cases h0 : v % 10 ^ prec = 0
  · refine ⟨[], by simp, by simp, by rw [h0, digitsValue_nil, Nat.zero_mul], ?_⟩
    simp only [fractionText, Nat.pow_eq, h0, if_true]
  -- the remainder padded with zeros to `prec` digits, then stripped of trailing zeros
  have hprec : 0 < prec := by
    rcases Nat.eq_zero_or_pos prec with rfl | hp
    · rw [Nat.pow_zero] at h0
      exact absurd (Nat.mod_one v) h0
    · exact hp
  have hlt : v % 10 ^ prec < 10 ^ prec := Nat.mod_lt _ (Nat.pow_pos (by decide))
  have hlen := Nat.toDigits_length 10 (v % 10 ^ prec) prec hprec hlt
  set padded := List.replicate (prec - (Nat.toDigits 10 (v % 10 ^ prec)).length) '0' ++
    Nat.toDigits 10 (v % 10 ^ prec) with hpadded
  have hpadlen : padded.length = prec := by
    rw [hpadded, List.length_append, List.length_replicate]
    omega
  have hpadval : digitsValue padded = v % 10 ^ prec := by
    rw [hpadded, digitsValue_append, digitsValue_zeros, digitsValue_toDigits, Nat.zero_mul,
      Nat.zero_add]
  have hpaddigits : ∀ c ∈ padded, c.isDigit = true := by
    intro c hc
    rw [hpadded, List.mem_append, List.mem_replicate] at hc
    rcases hc with ⟨-, rfl⟩ | hc
    · rfl
    · exact isDigit_of_mem_toDigits hc
  have hval := digitsValue_rdropWhile_zero padded
  have hsplit := List.rdropWhile_append_rtakeWhile (p := (· = '0')) (l := padded)
  set fs := padded.rdropWhile (· = '0') with hfs
  have hsub : fs.length ≤ padded.length := by
    have hl := congrArg List.length hsplit
    rw [List.length_append] at hl
    omega
  have hne : fs ≠ [] := by
    intro hnil
    rw [hpadval, hnil, digitsValue_nil, Nat.zero_mul] at hval
    exact h0 hval
  refine ⟨fs, fun c hc => hpaddigits c ?_, by omega, by rw [← hpadval, hval, hpadlen], ?_⟩
  · rw [← hsplit]
    exact List.mem_append_left _ hc
  simp only [fractionText, Nat.pow_eq, h0, if_false, if_neg hne]
  congr 1
  rw [String.ext_iff, String.toList_append, String.toList_ofList, String.toList_ofList,
    String.toList_ofList]
  rfl

/-- A written fraction of a unit of `10 ^ prec` nanoseconds, `prec ≤ 9`, is
scaled exactly: its nanoseconds are the remainder it was written from. -/
theorem fractionNanos_digits {fs : List Char} {prec r : Nat} (hprec : prec ≤ 9)
    (hlen : fs.length ≤ prec) (hr : digitsValue fs * 10 ^ (prec - fs.length) = r)
    (hlt : r < 10 ^ prec) :
    (if 0 < digitsValue fs then fractionNanos (digitsValue fs) fs.length (10 ^ prec) else 0) = r := by
  have hunit : 10 ^ prec < 2 ^ 53 :=
    lt_of_le_of_lt (Nat.pow_le_pow_right (by decide) hprec) (by decide)
  have hshift : 10 ^ prec / 10 ^ fs.length = 10 ^ (prec - fs.length) := Nat.pow_div hlen (by decide)
  split
  · rename_i hpos
    have hf : digitsValue fs < 2 ^ 53 := by
      have : digitsValue fs ≤ r := by
        rw [← hr]
        exact Nat.le_mul_of_pos_right _ (Nat.pow_pos (by decide))
      omega
    rw [fractionNanos_whole (Nat.pow_dvd_pow 10 hlen) (Nat.pow_pos (by decide)) hunit
      (by rw [hshift, hr]; omega) hf, hshift, hr]
  · rename_i hzero
    rw [← hr, Nat.eq_zero_of_not_pos hzero, Nat.zero_mul]

/-- The unit of a duration below a second: nanoseconds, microseconds or
milliseconds, each `10 ^ prec` nanoseconds. -/
theorem subsecondUnit (u : Nat) :
    ∃ prec unit, (if u < 1000 then (0, "ns") else if u < 1000000 then (3, "µs") else (6, "ms")) =
      (prec, unit) ∧ prec ≤ 9 ∧ unitNanos unit = some (10 ^ prec) := by
  split_ifs
  · exact ⟨0, "ns", rfl, by decide, rfl⟩
  · exact ⟨3, "µs", rfl, by decide, rfl⟩
  · exact ⟨6, "ms", rfl, by decide, rfl⟩

theorem sign_toList (d : Duration) :
    (if d < 0 then "-" else "").toList = if d < 0 then ['-'] else [] := by
  split <;> rfl

theorem digitsValue_lt_of_shift {fs : List Char} {k r m : Nat} (hr : digitsValue fs * 10 ^ k = r)
    (hm : r < m) : digitsValue fs < m :=
  lt_of_le_of_lt (hr ▸ Nat.le_mul_of_pos_right _ (Nat.pow_pos (by decide))) hm

/-- The text of a duration is its sign and then pieces: the hours, minutes and
seconds that are not leading zeros, or a single piece below a second. Each
fraction has at most nine digits, and the pieces add up to the duration. -/
theorem show_pieces (d : Duration) :
    ∃ ps : List Piece, ps ≠ [] ∧ (∀ p ∈ ps, digitsValue p.frac < 10 ^ 9) ∧
      (Duration.show d).toList = (if d < 0 then ['-'] else []) ++ ps.flatMap Piece.text ∧
      (ps.map Piece.nanos).sum = d.natAbs := by
  unfold Duration.show
  by_cases hu0 : d.natAbs = 0
  · -- zero is written `0s`
    have hd : ¬d < 0 := by
      rw [Int.natAbs_eq_zero.1 hu0]
      exact Int.lt_irrefl 0
    refine ⟨[⟨0, [], "s", 1000000000, by simp, rfl⟩], List.cons_ne_nil _ _, by simp, ?_, ?_⟩
    · simp only [hu0, if_true, hd, if_false]
      rfl
    · simp [Piece.nanos, hu0]
  by_cases hsmall : d.natAbs < 1000000000
  · -- below a second: one piece in the largest unit that fits
    obtain ⟨prec, unit, hsel, hprec, hunit⟩ := subsecondUnit d.natAbs
    obtain ⟨fs, hfs, hlen, hval, htext⟩ := fractionText_eq d.natAbs prec
    have hrem : d.natAbs % 10 ^ prec < 10 ^ prec := Nat.mod_lt _ (Nat.pow_pos (by decide))
    simp only [hu0, hsmall, hsel, htext, if_false, if_true]
    refine ⟨[⟨d.natAbs / 10 ^ prec, fs, unit, 10 ^ prec, hfs, hunit⟩], List.cons_ne_nil _ _, ?_, ?_, ?_⟩
    · simp only [List.mem_singleton, forall_eq]
      exact lt_of_lt_of_le (digitsValue_lt_of_shift hval hrem)
        (Nat.pow_le_pow_right (by decide) hprec)
    · simp only [String.toList_append, sign_toList, String.toList_ofList, List.flatMap_cons,
        List.flatMap_nil, Piece.text, Piece.fracText, List.append_assoc, List.append_nil]
    · simp only [List.map_cons, List.map_nil, List.sum_cons, List.sum_nil, Nat.add_zero, Piece.nanos]
      rw [fractionNanos_digits hprec hlen hval hrem]
      exact Nat.div_add_mod' _ _
  · -- hours, minutes and seconds, leading zero parts left out
    obtain ⟨fs, hfs, hlen, hval, htext⟩ := fractionText_eq d.natAbs 9
    have hrem : d.natAbs % 10 ^ 9 < 10 ^ 9 := Nat.mod_lt _ (by decide)
    have hfrac : digitsValue fs < 10 ^ 9 := digitsValue_lt_of_shift hval hrem
    have hsecs : d.natAbs / 10 ^ 9 % 60 * 10 ^ 9 +
        (if 0 < digitsValue fs then fractionNanos (digitsValue fs) fs.length (10 ^ 9) else 0) =
          d.natAbs / 10 ^ 9 % 60 * 10 ^ 9 + d.natAbs % 10 ^ 9 := by
      rw [fractionNanos_digits (by decide) hlen hval hrem]
    simp only [hu0, hsmall, htext, if_false]
    -- what is left is arithmetic on the whole seconds
    clear hval htext
    by_cases hm : d.natAbs / 10 ^ 9 / 60 = 0
    · rw [if_pos hm]
      refine ⟨[⟨d.natAbs / 10 ^ 9 % 60, fs, "s", 10 ^ 9, hfs, rfl⟩], List.cons_ne_nil _ _,
        by simpa using hfrac, ?_, ?_⟩
      · simp only [String.toList_append, sign_toList, String.toList_ofList, List.flatMap_cons,
          List.flatMap_nil, Piece.text, Piece.fracText, List.append_assoc, List.append_nil]
      · rw [List.map_singleton, List.sum_singleton, Piece.nanos]
        dsimp only
        rw [hsecs]
        clear hsecs
        omega
    by_cases hh : d.natAbs / 10 ^ 9 / 60 / 60 = 0
    · rw [if_neg hm, if_pos hh]
      refine ⟨[⟨d.natAbs / 10 ^ 9 / 60 % 60, [], "m", 60000000000, by simp, rfl⟩,
        ⟨d.natAbs / 10 ^ 9 % 60, fs, "s", 10 ^ 9, hfs, rfl⟩], List.cons_ne_nil _ _,
        by simpa using hfrac, ?_, ?_⟩
      · simp only [String.toList_append, sign_toList, String.toList_ofList, List.flatMap_cons,
          List.flatMap_nil, Piece.text, Piece.fracText, List.append_assoc, List.append_nil,
          if_true, List.nil_append]
      · rw [List.map_cons, List.map_singleton, List.sum_cons, List.sum_singleton,
          Piece.nanos_of_frac_nil _ rfl, Piece.nanos]
        dsimp only
        rw [hsecs]
        clear hsecs
        omega
    · rw [if_neg hm, if_neg hh]
      refine ⟨[⟨d.natAbs / 10 ^ 9 / 60 / 60, [], "h", 3600000000000, by simp, rfl⟩,
        ⟨d.natAbs / 10 ^ 9 / 60 % 60, [], "m", 60000000000, by simp, rfl⟩,
        ⟨d.natAbs / 10 ^ 9 % 60, fs, "s", 10 ^ 9, hfs, rfl⟩], List.cons_ne_nil _ _,
        by simpa using hfrac, ?_, ?_⟩
      · simp only [String.toList_append, sign_toList, String.toList_ofList, List.flatMap_cons,
          List.flatMap_nil, Piece.text, Piece.fracText, List.append_assoc, List.append_nil,
          if_true, List.nil_append]
      · rw [List.map_cons, List.map_cons, List.map_singleton, List.sum_cons, List.sum_cons,
          List.sum_singleton, Piece.nanos_of_frac_nil _ rfl, Piece.nanos_of_frac_nil _ rfl, Piece.nanos]
        dsimp only
        rw [hsecs]
        clear hsecs
        omega

/-- A text that starts with a digit has no sign. -/
theorem splitSign_of_isNumberChar {c : Char} {tail : List Char} (hc : isNumberChar c = true) :
    splitSign (c :: tail) = (false, c :: tail) := by
  refine splitSign.eq_3 _ (fun r h => ?_) (fun r h => ?_)
  · rw [(List.cons.inj h).1] at hc
    exact absurd hc (by decide)
  · rw [(List.cons.inj h).1] at hc
    exact absurd hc (by decide)

theorem length_texts (ps : List Piece) : 2 * ps.length ≤ (ps.flatMap Piece.text).length := by
  induction ps with
  | nil => simp
  | cons p ps ih =>
    have hp := p.two_le_length_text
    rw [List.flatMap_cons, List.length_append, List.length_cons]
    omega

/-- The text of every duration of 64 bits reads back as that duration. -/
theorem read_show {d : Int} (hlo : -2 ^ 63 ≤ d) (hhi : d < 2 ^ 63) :
    Duration.read (Duration.show d) = .ok d := by
  obtain ⟨ps, hne, hf, htext, hsum⟩ := show_pieces d
  have hlen := length_texts ps
  have hps : 0 < ps.length := List.length_pos_of_ne_nil hne
  obtain ⟨c, tail, hbody⟩ := List.exists_cons_of_ne_nil
    (List.ne_nil_of_length_pos (show 0 < (ps.flatMap Piece.text).length by omega))
  have hc : isNumberChar c = true := head_texts ps c (by rw [hbody]; rfl)
  have habs : d.natAbs ≤ 2 ^ 63 := by omega
  -- the pieces are at least two characters long: never a lone `0`
  have hshort : c :: tail ≠ ['0'] := by
    intro h0
    have hl := congrArg List.length h0
    rw [← hbody] at hl
    simp only [List.length_singleton] at hl
    omega
  have hread : readPieces (Duration.show d) ((c :: tail).length + 1) 0 (c :: tail) = .ok d.natAbs := by
    rw [← hbody, readPieces_texts ps (by omega) (fun p hp => lt_trans (hf p hp) (by decide))
      (by rw [hsum]; omega), hsum, Nat.zero_add]
  unfold Duration.read
  rw [htext, hbody]
  by_cases hneg : d < 0
  · rw [if_pos hneg, List.singleton_append, splitSign.eq_1]
    simp only [if_neg hshort, List.isEmpty_cons, Bool.false_eq_true, if_false, if_true, hread]
    show Except.ok (-(d.natAbs : Int)) = Except.ok d
    congr 1
    omega
  · -- no sign: the text starts with a digit
    have hfits : ¬d.natAbs > Nat.pow 2 63 - 1 := by
      rw [Nat.pow_eq]
      omega
    rw [if_neg hneg, List.nil_append, splitSign_of_isNumberChar hc]
    simp only [if_neg hshort, List.isEmpty_cons, Bool.false_eq_true, if_false, hread, bind,
      Except.bind, hfits]
    show Except.ok (d.natAbs : Int) = Except.ok d
    congr 1
    omega

/-! ### The range of the reader -/

/-- The reader never passes `2 ^ 63` nanoseconds: the total is checked against
the bound after each piece is added, in 64 bits. -/
theorem readPieces_le {orig : String} {fuel total t : Nat} {cs : List Char} (ht : total ≤ 2 ^ 63)
    (h : readPieces orig fuel total cs = .ok t) : t ≤ 2 ^ 63 := by
  induction fuel generalizing total cs with
  | zero =>
    rw [readPieces.eq_1] at h
    cases h
    exact ht
  | succ fuel ih =>
    cases cs with
    | nil =>
      rw [readPieces.eq_2 _ _ _ (Nat.succ_ne_zero fuel)] at h
      cases h
      exact ht
    | cons c tail =>
      rw [readPieces.eq_3] at h
      rcases hp : readPiece orig c tail with e | ⟨v, rest⟩
      · rw [hp] at h
        cases h
      · rw [hp] at h
        simp only [bind, Except.bind] at h
        split at h
        · cases h
        · rename_i hfits
          have hle : (total + v) % Nat.pow 2 64 ≤ Nat.pow 2 63 := Nat.le_of_not_gt hfits
          exact ih (by simpa only [Nat.pow_eq] using hle) h

/-- A duration read from text is one of 64 bits. -/
theorem read_range {s : String} {d : Int} (h : Duration.read s = .ok d) :
    -2 ^ 63 ≤ d ∧ d < 2 ^ 63 := by
  unfold Duration.read at h
  rcases hsign : splitSign s.toList with ⟨neg, rest⟩
  simp only [hsign] at h
  split at h
  · cases h
    decide
  split at h
  · cases h
  rcases hr : readPieces s (rest.length + 1) 0 rest with e | t
  · rw [hr] at h
    cases h
  have ht := readPieces_le (Nat.zero_le _) hr
  rw [hr] at h
  simp only [bind, Except.bind] at h
  split at h
  · cases h
    omega
  split at h
  · cases h
  · rename_i hfits
    cases h
    rw [Nat.pow_eq] at hfits
    omega

-- two pieces of `2 ^ 63` nanoseconds wrap around to zero in 64 bits
example : Duration.read "9223372036854775808ns9223372036854775808ns" = .ok 0 := by decide +kernel

end NetFleet.Text
