import Mathlib
import NetFleet.Proofs.DurationText
import NetFleet.Proofs.JsonTokens
import NetFleet.Decimal.Layout

/-!
# Reading written numbers

A numeral is a sign, a run of whole digits, fraction digits after a point when
there are any, and an exponent with its sign (`Numeral`). The literal reader
takes a numeral apart as written (`Numeral.parse`), and a numeral whose whole part
has no leading zero is a JSON number (`Numeral.numText`):

    Literal.parse? (String.ofList n.text) = some n.literal

Both layouts of shortest digits are numerals, so either reads back as a literal
of the sign and the value of the digits (`Digits.positional_parse`,
`Digits.scientific_parse`), whatever the width of the exponent.
-/

namespace NetFleet.Decimal

open Text (digitsValue_append digitsValue_zeros digitsValue_toDigits isDigit_of_mem_toDigits)

/-- The magnitude of a literal. -/
def Literal.value (l : Literal) : ℚ := l.mant * 10 ^ l.exp

/-- The magnitude of digits with a decimal point. -/
def Digits.value (d : Digits) : ℚ := digitsValue d.digits * 10 ^ (d.point - d.digits.length)

theorem Literal.value_eq_zero {l : Literal} : l.value = 0 ↔ l.mant = 0 := by
  simp [Literal.value, zpow_ne_zero]

/-- The test the reader uses for a digit is `Char.isDigit`. -/
theorem isDigit_eq : (fun c : Char => decide ('0' ≤ c) && decide (c ≤ '9')) = Char.isDigit := by
  funext c
  rfl

theorem isDigit_of_mem_zeros {k : ℕ} {c : Char} (h : c ∈ List.replicate k '0') : c.isDigit = true := by
  rw [(List.mem_replicate.1 h).2]
  rfl

theorem digitsValue_zeros_append (n : ℕ) (ds : List Char) :
    digitsValue (List.replicate n '0' ++ ds) = digitsValue ds := by
  rw [digitsValue_append, digitsValue_zeros, Nat.zero_mul, Nat.zero_add]

/-! ### Numerals -/

/-- A numeral of the literal grammar, its parts runs of digits. -/
structure Numeral where
  neg : Bool
  whole : List Char
  frac : List Char
  /-- The sign of the exponent, whether it is negative, and its digits. -/
  exp : Option (Bool × List Char)
  whole_ne : whole ≠ []
  whole_digits : ∀ c ∈ whole, c.isDigit = true
  frac_digits : ∀ c ∈ frac, c.isDigit = true
  exp_digits : ∀ x ∈ exp, x.2 ≠ [] ∧ ∀ c ∈ x.2, c.isDigit = true

/-- The exponent of a numeral as written, with an explicit sign. -/
def Numeral.expText (n : Numeral) : List Char :=
  (n.exp.map fun x => 'e' :: (if x.1 then '-' else '+') :: x.2).getD []

/-- A numeral as written. -/
def Numeral.text (n : Numeral) : List Char :=
  (if n.neg then ['-'] else []) ++ n.whole ++ (if n.frac.isEmpty then [] else '.' :: n.frac) ++ n.expText

/-- The value of the exponent of a numeral. -/
def Numeral.expValue (n : Numeral) : ℤ :=
  (n.exp.map fun x => if x.1 then -(digitsValue x.2 : ℤ) else digitsValue x.2).getD 0

/-- The literal a numeral denotes. -/
def Numeral.literal (n : Numeral) : Literal :=
  ⟨n.neg, digitsValue (n.whole ++ n.frac), n.expValue - n.frac.length, n.frac.isEmpty && n.exp.isNone⟩

/-- The reader takes a numeral apart as written. -/
theorem Numeral.parse (n : Numeral) : Literal.parse? (String.ofList n.text) = some n.literal := by
  obtain ⟨neg, I, F, X, hI, hId, hFd, hX⟩ := n
  obtain ⟨c, I', rfl⟩ := List.exists_cons_of_ne_nil hI
  have hc : c.isDigit = true := hId c (by simp)
  have hc' : c ≠ '-' := by rintro rfl; simp at hc
  have hI'd : ∀ x ∈ I', x.isDigit = true := fun x hx => hId x (by simp [hx])
  have hI't : I'.takeWhile Char.isDigit = I' := List.takeWhile_eq_self_iff.2 hI'd
  have hI'r : I'.dropWhile Char.isDigit = [] := List.dropWhile_eq_nil_iff.2 hI'd
  have hFt : F.takeWhile Char.isDigit = F := List.takeWhile_eq_self_iff.2 hFd
  have hFr : F.dropWhile Char.isDigit = [] := List.dropWhile_eq_nil_iff.2 hFd
  simp only [Numeral.text, Numeral.literal, Numeral.expText, Numeral.expValue, Literal.parse?,
    String.toList_ofList, isDigit_eq]
  -- each run of digits ends at the point, the exponent or the end of the text
  rcases X with _ | ⟨eneg, ds⟩
  · by_cases hF : F = []
    · subst hF
      cases neg <;> simp [hc, hc', hI't, hI'r]
    · cases neg <;> simp [hc, hc', hF, hFt, hFr, List.takeWhile_append_of_pos hI'd,
        List.dropWhile_append_of_pos hI'd]
  · obtain ⟨hne, hdd⟩ := hX (eneg, ds) rfl
    have hdt : ds.takeWhile Char.isDigit = ds := List.takeWhile_eq_self_iff.2 hdd
    have hdr : ds.dropWhile Char.isDigit = [] := List.dropWhile_eq_nil_iff.2 hdd
    by_cases hF : F = []
    · subst hF
      cases neg <;> cases eneg <;> simp [hc, hc', hne, hdt, hdr, List.takeWhile_append_of_pos hI'd,
        List.dropWhile_append_of_pos hI'd]
    · cases neg <;> cases eneg <;> simp [hc, hc', hF, hne, hdt, hdr,
        List.takeWhile_append_of_pos hI'd, List.dropWhile_append_of_pos hI'd,
        List.takeWhile_append_of_pos hFd, List.dropWhile_append_of_pos hFd]

/-- A numeral whose whole part is `0` or does not start with `0` is the text of a
JSON number. -/
theorem Numeral.numText (n : Numeral) (hw : n.whole = ['0'] ∨ n.whole.head? ≠ some '0') :
    Json.NumText n.text := by
  refine ⟨if n.neg then ['-'] else [], n.whole, if n.frac.isEmpty then [] else '.' :: n.frac, n.expText,
    rfl, ?_, ?_, ?_, ?_⟩
  · cases n.neg <;> simp
  · exact hw.imp_right fun h => ⟨⟨n.whole_ne, n.whole_digits⟩, h⟩
  · by_cases hF : n.frac.isEmpty
    · exact .inl (if_pos hF)
    · exact .inr ⟨n.frac, if_neg hF, by simpa using hF, n.frac_digits⟩
  · unfold Numeral.expText
    rcases hX : n.exp with _ | ⟨eneg, ds⟩
    · exact .inl rfl
    · obtain ⟨hne, hd⟩ := n.exp_digits (eneg, ds) hX
      refine .inr ⟨'e', [if eneg then '-' else '+'], ds, rfl, .inl rfl, ?_, hne, hd⟩
      cases eneg <;> simp

theorem Numeral.literal_value (n : Numeral) :
    n.literal.value = digitsValue (n.whole ++ n.frac) * 10 ^ (n.expValue - n.frac.length) := rfl

/-! ### The two layouts -/

section Layouts

variable {d : Digits} (hne : d.digits ≠ []) (hd : ∀ c ∈ d.digits, c.isDigit = true)
include hne hd

/-- Digits written positionally are a numeral of their sign and value, without
exponent; its whole part is `0` or starts as the digits do. -/
theorem Digits.positional_numeral :
    ∃ n : Numeral, d.positional = String.ofList n.text ∧ n.neg = d.neg ∧ n.literal.value = d.value ∧
      (n.whole = ['0'] ∨ n.whole.head? = d.digits.head?) := by
  obtain ⟨neg, ds, p⟩ := d
  simp only at hne hd ⊢
  unfold Digits.positional
  simp only
  by_cases h₀ : p ≤ 0
  · -- `0.` and zeros before the digits
    let n : Numeral := ⟨neg, ['0'], List.replicate (-p).toNat '0' ++ ds, none, by simp, by simp,
      fun c hc => (List.mem_append.1 hc).elim isDigit_of_mem_zeros (hd c), by simp⟩
    have htext : (if neg then "-" else "") ++ ("0." ++ String.ofList (List.replicate (-p).toNat '0' ++ ds)) =
        String.ofList n.text := by
      apply String.toList_injective
      cases neg <;> simp [n, Numeral.text, Numeral.expText, hne]
    refine ⟨n, by rw [if_pos h₀, htext], rfl, ?_, .inl rfl⟩
    rw [Numeral.literal_value, Digits.value]
    simp only [n, Numeral.expValue, Option.map_none, Option.getD_none, List.singleton_append, List.length_append,
      List.length_replicate]
    rw [← List.cons_append, ← List.replicate_succ, digitsValue_zeros_append]
    congr 2
    push_cast
    omega
  by_cases h₁ : ds.length ≤ p.toNat
  · -- zeros after the digits, no point
    let n : Numeral := ⟨neg, ds ++ List.replicate (p.toNat - ds.length) '0', [], none, by simp [hne],
      fun c hc => (List.mem_append.1 hc).elim (hd c) isDigit_of_mem_zeros, by simp, by simp⟩
    have htext : (if neg then "-" else "") ++ String.ofList (ds ++ List.replicate (p.toNat - ds.length) '0') =
        String.ofList n.text := by
      apply String.toList_injective
      cases neg <;> simp [n, Numeral.text, Numeral.expText]
    refine ⟨n, by rw [if_neg h₀, if_pos h₁, htext], rfl, ?_, .inr ?_⟩
    · rw [Numeral.literal_value, Digits.value]
      simp only [n, Numeral.expValue, Option.map_none, Option.getD_none, List.append_nil, List.length_nil,
        digitsValue_append, digitsValue_zeros, Nat.add_zero, List.length_replicate]
      have hp : p - ds.length = ((p.toNat - ds.length : ℕ) : ℤ) := by omega
      rw [hp, zpow_natCast]
      push_cast
      ring
    · obtain ⟨c, cs, rfl⟩ := List.exists_cons_of_ne_nil hne
      rfl
  · -- a point inside the digits
    let n : Numeral := ⟨neg, ds.take p.toNat, ds.drop p.toNat, none, by simp [hne]; omega,
      fun c hc => hd c (List.mem_of_mem_take hc), fun c hc => hd c (List.mem_of_mem_drop hc), by simp⟩
    have hdrop : ds.drop p.toNat ≠ [] := by simp; omega
    have htext : (if neg then "-" else "") ++ (String.ofList (ds.take p.toNat) ++ "." ++
        String.ofList (ds.drop p.toNat)) = String.ofList n.text := by
      apply String.toList_injective
      cases neg <;> simp [n, Numeral.text, Numeral.expText, hdrop]
    refine ⟨n, by rw [if_neg h₀, if_neg h₁, htext], rfl, ?_, .inr ?_⟩
    · rw [Numeral.literal_value, Digits.value]
      simp only [n, Numeral.expValue, Option.map_none, Option.getD_none, List.take_append_drop, List.length_drop]
      congr 2
      omega
    · obtain ⟨c, cs, rfl⟩ := List.exists_cons_of_ne_nil hne
      simp only [n, List.head?_cons]
      rw [List.take_cons (by omega), List.head?_cons]

/-- Digits written with an exponent of any width are a numeral of their sign and
value whose whole part is their first digit. -/
theorem Digits.scientific_numeral (w : ℕ) :
    ∃ n : Numeral, d.scientific w = String.ofList n.text ∧ n.neg = d.neg ∧ n.literal.value = d.value ∧
      n.whole.head? = d.digits.head? := by
  obtain ⟨neg, ds, p⟩ := d
  simp only at hne hd ⊢
  obtain ⟨c, rest, rfl⟩ := List.exists_cons_of_ne_nil hne
  let ed := Nat.toDigits 10 (p - 1).natAbs
  let X := List.replicate (w - ed.length) '0' ++ ed
  have hX : X ≠ [] ∧ ∀ c ∈ X, c.isDigit = true := by
    refine ⟨by simp [X, ed, Nat.toDigits_ne_nil], ?_⟩
    intro x hx
    exact (List.mem_append.1 hx).elim isDigit_of_mem_zeros isDigit_of_mem_toDigits
  let n : Numeral := ⟨neg, [c], rest, some (decide (p - 1 < 0), X), by simp,
    by simpa using hd c (by simp), fun x hx => hd x (by simp [hx]), by simpa using hX⟩
  have htext : Digits.scientific ⟨neg, c :: rest, p⟩ w = String.ofList n.text := by
    apply String.toList_injective
    cases rest <;> cases neg <;> by_cases he : p - 1 < 0 <;>
      simp [Digits.scientific, n, X, ed, Numeral.text, Numeral.expText, he]
  have hexp : n.expValue = p - 1 := by
    simp only [n, Numeral.expValue, Option.map_some, Option.getD_some, X, digitsValue_zeros_append, ed,
      digitsValue_toDigits, decide_eq_true_eq, Int.natCast_natAbs]
    split
    · next h => rw [abs_of_neg h, neg_neg]
    · next h => rw [abs_of_nonneg (not_lt.1 h)]
  refine ⟨n, htext, rfl, ?_, rfl⟩
  rw [Numeral.literal_value, Digits.value, hexp]
  simp only [n, List.singleton_append, List.length_cons]
  congr 2
  push_cast
  ring

/-- Digits written positionally read back as their sign and value. -/
theorem Digits.positional_parse :
    ∃ l, Literal.parse? d.positional = some l ∧ l.neg = d.neg ∧ l.value = d.value := by
  obtain ⟨n, htext, hneg, hval, -⟩ := Digits.positional_numeral hne hd
  exact ⟨n.literal, htext ▸ n.parse, hneg, hval⟩

/-- Digits written with an exponent of any width read back as their sign and value. -/
theorem Digits.scientific_parse (w : ℕ) :
    ∃ l, Literal.parse? (d.scientific w) = some l ∧ l.neg = d.neg ∧ l.value = d.value := by
  obtain ⟨n, htext, hneg, hval, -⟩ := Digits.scientific_numeral hne hd w
  exact ⟨n.literal, htext ▸ n.parse, hneg, hval⟩

end Layouts

end NetFleet.Decimal
