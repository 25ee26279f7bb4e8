import Mathlib
import NetFleet.Json.Raw
import NetFleet.Proofs.JsonText

/-!
# Values kept as text

`Json.rawMembers` cuts the text of an object into its members without reading
the values: `stringSpan` skips a string by its quotes and escapes, and
`valueSpan` follows brackets, stopping at the first comma, blank or closing
bracket outside them. On the texts of the grammar these cuts fall where the
reader's do:

* `Body.stringSpan`: the span of a string ends at its closing quote;
* `Text.spanCopies`: inside brackets a value is copied whole, and at the top
  (`Text.span_top`) the span of a value ends where its text does, before
  blanks, a comma or a closing bracket;
* `rawMembers_of_parse`: every text that parses as an object is cut into the
  names of its members and the texts of their values, one for one.

`valueSpan` takes fuel; any fuel beyond the length of the text gives the same
span (`valueSpan_fuel`), so the lemmas hold for every such fuel.
-/

namespace NetFleet.Json

/-! ### Characters that carry no structure -/

/-- A character of a number or a literal word: no quote, backslash, bracket,
comma or blank. The span and the compaction of a text copy it as it is. -/
def plainChar (x : Char) : Bool :=
  x != '"' && x != '\\' && x != '{' && x != '[' && x != '}' && x != ']' && x != ',' && !isBlank x

theorem plainChar_of_toNat {x : Char} (h : 48 ≤ x.toNat ∧ x.toNat ≤ 57 ∨ 65 ≤ x.toNat ∧ x.toNat ≤ 90 ∨
    97 ≤ x.toNat ∧ x.toNat ≤ 122) : plainChar x = true := by
  -- digits and letters lie apart from every character with a structure
  have hne : ∀ c : Char, (c.toNat < 48 ∨ 57 < c.toNat ∧ c.toNat < 65 ∨ 90 < c.toNat ∧ c.toNat < 97 ∨
      122 < c.toNat) → x ≠ c := by
    rintro c hc rfl
    omega
  simp [plainChar, isBlank, hne '"' (by decide), hne '\\' (by decide), hne '{' (by decide),
    hne '[' (by decide), hne '}' (by decide), hne ']' (by decide), hne ',' (by decide), hne ' ' (by decide),
    hne '\t' (by decide), hne '\n' (by decide), hne '\r' (by decide)]

theorem plainChar_of_isDigit {x : Char} (h : isDigit x = true) : plainChar x = true := by
  simp only [isDigit, Bool.and_eq_true, decide_eq_true_eq, Char.le_def, UInt32.le_iff_toNat_le] at h
  exact plainChar_of_toNat (.inl h)

/-- The hexadecimal digits: `0`–`9`, `A`–`F` and `a`–`f`. -/
theorem hexVal_toNat {x : Char} {v : Nat} (h : hexVal? x = some v) :
    48 ≤ x.toNat ∧ x.toNat ≤ 57 ∨ 65 ≤ x.toNat ∧ x.toNat ≤ 70 ∨ 97 ≤ x.toNat ∧ x.toNat ≤ 102 := by
  simp only [hexVal?] at h
  split at h
  · next hd => exact .inl (by simpa [Char.le_def, UInt32.le_iff_toNat_le] using hd)
  split at h
  · next hd => exact .inr (.inr (by simpa [Char.le_def, UInt32.le_iff_toNat_le] using hd))
  split at h
  · next hd => exact .inr (.inl (by simpa [Char.le_def, UInt32.le_iff_toNat_le] using hd))
  · cases h

theorem plainChar_of_hexVal {x : Char} {v : Nat} (h : hexVal? x = some v) : plainChar x = true := by
  apply plainChar_of_toNat
  rcases hexVal_toNat h with h | h | h <;> omega

theorem readHex4_go_hexVal {k acc n : Nat} {h : List Char} (hl : h.length = k)
    (hh : readHex4.go k acc h = .ok (n, [])) : ∀ x ∈ h, ∃ v, hexVal? x = some v := by
  induction k generalizing acc h with
  | zero => simp_all
  | succ k ih =>
    cases h with
    | nil => simp at hl
    | cons c h =>
      simp only [readHex4.go] at hh
      split at hh
      · next v hv =>
        intro x hx
        rcases List.mem_cons.1 hx with rfl | hx
        · exact ⟨v, hv⟩
        · exact ih (by simpa using hl) hh x hx
      · cases hh

/-- Every character of a four-digit escape is a hexadecimal digit. -/
theorem Hex4.hexVal {h : List Char} {n : Nat} (hx : Hex4 h n) : ∀ x ∈ h, ∃ v, hexVal? x = some v :=
  readHex4_go_hexVal hx.1 hx.2

theorem Hex4.plain {h : List Char} {n : Nat} (hx : Hex4 h n) : ∀ x ∈ h, plainChar x = true := fun x hx' =>
  let ⟨_, hv⟩ := hx.hexVal x hx'
  plainChar_of_hexVal hv

theorem NumText.plain {lit : List Char} (hl : NumText lit) : ∀ x ∈ lit, plainChar x = true := by
  obtain ⟨sign, int, frac, exp, rfl, hs, hi, hf, he⟩ := hl
  have hdigits : ∀ {ds : List Char}, Digits ds → ∀ x ∈ ds, plainChar x = true :=
    fun hd x hx => plainChar_of_isDigit (hd.2 x hx)
  intro x hx
  simp only [List.mem_append] at hx
  rcases hx with ((hx | hx) | hx) | hx
  · rcases hs with rfl | rfl
    · simp at hx
    · rw [List.mem_singleton.1 hx]
      rfl
  · rcases hi with rfl | ⟨hd, -⟩
    · rw [List.mem_singleton.1 hx]
      rfl
    · exact hdigits hd x hx
  · rcases hf with rfl | ⟨ds, rfl, hd⟩
    · simp at hx
    · rcases List.mem_cons.1 hx with rfl | hx
      · rfl
      · exact hdigits hd x hx
  · rcases he with rfl | ⟨e, sg, ds, rfl, hee, hsg, hd⟩
    · simp at hx
    · simp only [List.cons_append, List.mem_cons, List.mem_append] at hx
      rcases hx with rfl | hx | hx
      · rcases hee with rfl | rfl <;> rfl
      · rcases hsg with rfl | rfl | rfl
        · simp at hx
        · rw [List.mem_singleton.1 hx]
          rfl
        · rw [List.mem_singleton.1 hx]
          rfl
      · exact hdigits hd x hx

/-! ### Strings -/

theorem stringSpan_plain {w : List Char} (hw : ∀ x ∈ w, plainChar x = true) (rest : List Char) :
    stringSpan (w ++ rest) = (w ++ (stringSpan rest).1, (stringSpan rest).2) := by
  induction w with
  | nil => simp
  | cons x w ih =>
    have hx := hw x (by simp)
    simp only [plainChar, Bool.and_eq_true, bne_iff_ne, ne_eq] at hx
    rw [List.cons_append, stringSpan.eq_def]
    simp [hx, ih (fun y hy => hw y (by simp [hy]))]

/-- The span of a string ends at its closing quote. -/
theorem Body.stringSpan {b s : List Char} (hb : Body b s) (rest : List Char) :
    Json.stringSpan (b ++ '"' :: rest) = (b ++ ['"'], rest) := by
  induction hb with
  | nil => simp [Json.stringSpan]
  | @plain c b s hq hbs _ _ ih =>
    rw [List.cons_append, Json.stringSpan.eq_def]
    simp [hbs, ih]
  | escape _ _ ih =>
    simp [Json.stringSpan, ih]
  | code hx _ _ _ ih =>
    simp [Json.stringSpan, stringSpan_plain hx.plain, ih]
  | pair hx _ hx' _ _ ih =>
    simp [Json.stringSpan, stringSpan_plain hx.plain, stringSpan_plain hx'.plain, ih]
  | lone hx _ _ ih =>
    simp [Json.stringSpan, stringSpan_plain hx.plain, ih]

theorem stringSpan_length (cs : List Char) : (stringSpan cs).2.length ≤ cs.length := by
  fun_induction stringSpan cs <;> simp_all <;> omega

/-! ### Fuel -/

/-- Any fuel beyond the length of the text gives the same span: every step of
`valueSpan` takes a character at least. -/
theorem valueSpan_fuel : ∀ {f f' d : Nat} {cs : List Char}, cs.length < f → cs.length < f' →
    valueSpan f d cs = valueSpan f' d cs
  | 0, _, _, _, h, _ => absurd h (Nat.not_lt_zero _)
  | _, 0, _, _, _, h => absurd h (Nat.not_lt_zero _)
  | f + 1, f' + 1, d, [], _, _ => by simp [valueSpan]
  | f + 1, f' + 1, d, c :: rest, h, h' => by
    simp only [List.length_cons, Nat.add_lt_add_iff_right] at h h'
    have hrest : ∀ d', valueSpan f d' rest = valueSpan f' d' rest := fun d' => valueSpan_fuel h h'
    have hstr : ∀ d', valueSpan f d' (stringSpan rest).2 = valueSpan f' d' (stringSpan rest).2 :=
      fun d' => valueSpan_fuel (by have := stringSpan_length rest; omega)
        (by have := stringSpan_length rest; omega)
    -- both sides take the same first step, and the text after it spans alike
    by_cases hc : c = '"'
    · subst hc
      simp only [valueSpan, hstr]
    · simp [valueSpan, hrest]

/-! ### One step of a span -/

section Steps

variable {f d : Nat} {rest : List Char}

theorem valueSpan_plain {x : Char} (hx : plainChar x = true) :
    valueSpan (f + 1) d (x :: rest) = (x :: (valueSpan f d rest).1, (valueSpan f d rest).2) := by
  simp only [plainChar, Bool.and_eq_true, bne_iff_ne, ne_eq, Bool.not_eq_true'] at hx
  simp [valueSpan, hx]

/-- Inside brackets blanks and commas are copied like any other character. -/
theorem valueSpan_inner {x : Char} (hd : 1 ≤ d) (hx : x = ',' ∨ isBlank x = true) :
    valueSpan (f + 1) d (x :: rest) = (x :: (valueSpan f d rest).1, (valueSpan f d rest).2) := by
  have hne : x ≠ '"' ∧ x ≠ '{' ∧ x ≠ '[' ∧ x ≠ '}' ∧ x ≠ ']' := by
    rcases hx with rfl | hx
    · decide
    · simp only [isBlank, Bool.or_eq_true, decide_eq_true_eq] at hx
      rcases hx with ((rfl | rfl) | rfl) | rfl <;> decide
  simp [valueSpan, hne, Nat.pos_iff_ne_zero.1 hd]

theorem valueSpan_open {x : Char} (hx : x = '{' ∨ x = '[') :
    valueSpan (f + 1) d (x :: rest) = (x :: (valueSpan f (d + 1) rest).1, (valueSpan f (d + 1) rest).2) := by
  rcases hx with rfl | rfl <;> simp [valueSpan]

theorem valueSpan_close {x : Char} (hx : x = '}' ∨ x = ']') (hd : 2 ≤ d) :
    valueSpan (f + 1) d (x :: rest) = (x :: (valueSpan f (d - 1) rest).1, (valueSpan f (d - 1) rest).2) := by
  have h₀ : d ≠ 0 := by omega
  have h₁ : d ≠ 1 := by omega
  rcases hx with rfl | rfl <;> simp [valueSpan, h₀, h₁]

/-- The bracket that closes the outermost value ends its span. -/
theorem valueSpan_close_last {x : Char} (hx : x = '}' ∨ x = ']') :
    valueSpan (f + 1) 1 (x :: rest) = ([x], rest) := by
  rcases hx with rfl | rfl <;> simp [valueSpan]

theorem valueSpan_string {b s : List Char} (hb : Body b s) (hd : 1 ≤ d) :
    valueSpan (f + 1) d ('"' :: (b ++ '"' :: rest)) =
      ('"' :: (b ++ '"' :: (valueSpan f d rest).1), (valueSpan f d rest).2) := by
  simp [valueSpan, hb.stringSpan, Nat.pos_iff_ne_zero.1 hd]

theorem valueSpan_string_top {b s : List Char} (hb : Body b s) :
    valueSpan (f + 1) 0 ('"' :: (b ++ '"' :: rest)) = ('"' :: (b ++ ['"']), rest) := by
  simp [valueSpan, hb.stringSpan]

end Steps

/-- Text that may follow a value at the top of a span: nothing, or a comma, a
closing bracket or a blank. -/
def EndsValue (rest : List Char) : Prop := ∀ x r, rest = x :: r → x = ',' ∨ x = '}' ∨ x = ']' ∨ isBlank x = true

theorem valueSpan_ends {rest : List Char} (h : EndsValue rest) (f : Nat) : valueSpan f 0 rest = ([], rest) := by
  cases f with
  | zero => rfl
  | succ f =>
    cases rest with
    | nil => rfl
    | cons x r =>
      rcases h x r rfl with rfl | rfl | rfl | hx
      · simp [valueSpan]
      · simp [valueSpan]
      · simp [valueSpan]
      · have hne : x ≠ '"' ∧ x ≠ '{' ∧ x ≠ '[' ∧ x ≠ '}' ∧ x ≠ ']' := by
          simp only [isBlank, Bool.or_eq_true, decide_eq_true_eq] at hx
          rcases hx with ((rfl | rfl) | rfl) | rfl <;> decide
        simp [valueSpan, hne, hx]

/-! ### Spans inside brackets -/

/-- Inside `d` brackets, the span copies the text `c` whole and goes on after it. -/
def SpanCopies (d : Nat) (c : List Char) : Prop :=
  ∀ fuel rest, (c ++ rest).length < fuel →
    valueSpan fuel d (c ++ rest) = (c ++ (valueSpan fuel d rest).1, (valueSpan fuel d rest).2)

section Copies

variable {d : Nat}

theorem SpanCopies.nil : SpanCopies d [] := by
  intro fuel rest _
  simp

theorem SpanCopies.append {a b : List Char} (ha : SpanCopies d a) (hb : SpanCopies d b) :
    SpanCopies d (a ++ b) := by
  intro fuel rest h
  simp only [List.length_append] at h
  rw [List.append_assoc, ha fuel (b ++ rest) (by simp; omega), hb fuel rest (by simp; omega)]
  simp

/-- A character that the span copies in one step, at every fuel. -/
theorem SpanCopies.single {x : Char}
    (hstep : ∀ f rest, valueSpan (f + 1) d (x :: rest) = (x :: (valueSpan f d rest).1, (valueSpan f d rest).2)) :
    SpanCopies d [x] := by
  intro fuel rest h
  simp only [List.singleton_append, List.length_cons] at h ⊢
  obtain ⟨f, rfl⟩ : ∃ f, fuel = f + 1 := ⟨fuel - 1, by omega⟩
  have h₁ : rest.length < f := by omega
  have h₂ : rest.length < f + 1 := by omega
  rw [hstep, valueSpan_fuel h₁ h₂]

theorem spanCopies_plain {w : List Char} (hw : ∀ x ∈ w, plainChar x = true) : SpanCopies d w := by
  induction w with
  | nil => exact .nil
  | cons x w ih =>
    exact (SpanCopies.single fun _ _ => valueSpan_plain (hw x (by simp))).append
      (ih fun y hy => hw y (by simp [hy]))

theorem spanCopies_blanks {ws : List Char} (hd : 1 ≤ d) (hws : Blanks ws) : SpanCopies d ws := by
  induction ws with
  | nil => exact .nil
  | cons x ws ih =>
    exact (SpanCopies.single fun _ _ => valueSpan_inner hd (.inr (hws x (by simp)))).append
      (ih fun y hy => hws y (by simp [hy]))

theorem spanCopies_comma (hd : 1 ≤ d) : SpanCopies d [','] :=
  SpanCopies.single fun _ _ => valueSpan_inner hd (.inl rfl)

theorem Body.spanCopies {b s : List Char} (hb : Body b s) (hd : 1 ≤ d) : SpanCopies d ('"' :: b ++ ['"']) := by
  intro fuel rest h
  simp only [List.cons_append, List.append_assoc, List.nil_append, List.length_cons, List.length_append] at h ⊢
  obtain ⟨f, rfl⟩ : ∃ f, fuel = f + 1 := ⟨fuel - 1, by omega⟩
  have h₁ : rest.length < f := by omega
  have h₂ : rest.length < f + 1 := by omega
  rw [valueSpan_string hb hd, valueSpan_fuel h₁ h₂]

/-- A bracketed text whose inside is copied one level deeper is copied whole. -/
theorem spanCopies_bracket {x y : Char} {t : List Char} (hx : x = '{' ∨ x = '[') (hy : y = '}' ∨ y = ']')
    (hd : 1 ≤ d) (ht : SpanCopies (d + 1) t) : SpanCopies d (x :: t ++ [y]) := by
  intro fuel rest h
  simp only [List.cons_append, List.append_assoc, List.nil_append, List.length_cons, List.length_append] at h ⊢
  obtain ⟨f, rfl⟩ : ∃ f, fuel = f + 1 := ⟨fuel - 1, by omega⟩
  obtain ⟨g, rfl⟩ : ∃ g, f = g + 1 := ⟨f - 1, by omega⟩
  have h₁ : rest.length < g := by omega
  have h₂ : rest.length < g + 1 + 1 := by omega
  rw [valueSpan_open hx, ht (g + 1) (y :: rest) (by simp; omega), valueSpan_close hy (by omega)]
  simp only [Nat.add_sub_cancel]
  rw [valueSpan_fuel h₁ h₂]

end Copies

theorem spanCopies_word {w : List Char} (hw : w = ['n', 'u', 'l', 'l'] ∨ w = ['t', 'r', 'u', 'e'] ∨
    w = ['f', 'a', 'l', 's', 'e']) {d : Nat} : SpanCopies d w := by
  apply spanCopies_plain
  rcases hw with rfl | rfl | rfl <;> simp [plainChar, isBlank]

mutual

/-- Inside brackets the span copies the text of a value whole. -/
theorem Text.spanCopies {c : List Char} {v : Json} (h : Text c v) {d : Nat} (hd : 1 ≤ d) :
    SpanCopies d c := by
  match h with
  | .null => exact spanCopies_word (.inl rfl)
  | .true_ => exact spanCopies_word (.inr (.inl rfl))
  | .false_ => exact spanCopies_word (.inr (.inr rfl))
  | .num hl => exact spanCopies_plain hl.plain
  | .str hb => simpa using hb.spanCopies hd
  | .arrNil hws => exact spanCopies_bracket (.inr rfl) (.inr rfl) hd (spanCopies_blanks (by omega) hws)
  | .arr hi => exact spanCopies_bracket (.inr rfl) (.inr rfl) hd (hi.spanCopies (by omega))
  | .objNil hws => exact spanCopies_bracket (.inl rfl) (.inl rfl) hd (spanCopies_blanks (by omega) hws)
  | .obj hm => exact spanCopies_bracket (.inl rfl) (.inl rfl) hd (hm.spanCopies (by omega))

theorem Items.spanCopies {t : List Char} {vs : List Json} (h : Items t vs) {d : Nat} (hd : 1 ≤ d) :
    SpanCopies d t := by
  match h with
  | .last hws hc hws' =>
    exact ((spanCopies_blanks hd hws).append (hc.spanCopies hd)).append (spanCopies_blanks hd hws')
  | .cons hws hc hws' ht =>
    have hsep := (spanCopies_comma hd).append (ht.spanCopies hd)
    simpa using (((spanCopies_blanks hd hws).append (hc.spanCopies hd)).append (spanCopies_blanks hd hws')).append hsep

theorem Members.spanCopies {t : List Char} {ms : List (String × Json)} (h : Members t ms) {d : Nat}
    (hd : 1 ≤ d) : SpanCopies d t := by
  match h with
  | .last hws₁ hk hws₂ hws₃ hc hws₄ =>
    -- the name, its colon and the value
    have hcolon : SpanCopies d [':'] := spanCopies_plain (by simp [plainChar, isBlank])
    simpa using (((((spanCopies_blanks hd hws₁).append (hk.spanCopies hd)).append (spanCopies_blanks hd hws₂)).append
      hcolon).append ((spanCopies_blanks hd hws₃).append (hc.spanCopies hd))).append (spanCopies_blanks hd hws₄)
  | .cons hws₁ hk hws₂ hws₃ hc hws₄ ht =>
    have hcolon : SpanCopies d [':'] := spanCopies_plain (by simp [plainChar, isBlank])
    have hsep := (spanCopies_comma hd).append (ht.spanCopies hd)
    simpa using ((((((spanCopies_blanks hd hws₁).append (hk.spanCopies hd)).append (spanCopies_blanks hd hws₂)).append
      hcolon).append ((spanCopies_blanks hd hws₃).append (hc.spanCopies hd))).append
        (spanCopies_blanks hd hws₄)).append hsep

end

/-- At the top, the span of a value is its text, up to a comma, a closing
bracket, a blank or the end. -/
theorem Text.span_top {c : List Char} {v : Json} (h : Text c v) {rest : List Char} (hr : EndsValue rest)
    {fuel : Nat} (hf : (c ++ rest).length < fuel) : valueSpan fuel 0 (c ++ rest) = (c, rest) := by
  obtain ⟨f, rfl⟩ : ∃ f, fuel = f + 1 := ⟨fuel - 1, by simp at hf; omega⟩
  -- a bracketed value is copied one level down, up to the bracket that closes it
  have hbracket : ∀ {x y : Char} {t : List Char}, (x = '{' ∨ x = '[') → (y = '}' ∨ y = ']') →
      SpanCopies 1 t → (x :: t ++ [y] ++ rest).length < f + 1 →
        valueSpan (f + 1) 0 (x :: t ++ [y] ++ rest) = (x :: t ++ [y], rest) := by
    intro x y t hx hy ht hf
    simp only [List.cons_append, List.append_assoc, List.nil_append, List.length_cons,
      List.length_append] at hf ⊢
    obtain ⟨g, rfl⟩ : ∃ g, f = g + 1 := ⟨f - 1, by omega⟩
    rw [valueSpan_open hx, Nat.zero_add, ht (g + 1) (y :: rest) (by simp; omega), valueSpan_close_last hy]
  -- a scalar is copied up to what ends it
  have hscalar : SpanCopies 0 c → valueSpan (f + 1) 0 (c ++ rest) = (c, rest) := by
    intro hc
    rw [hc (f + 1) rest hf, valueSpan_ends hr]
    simp
  match h with
  | .null => exact hscalar (spanCopies_word (.inl rfl))
  | .true_ => exact hscalar (spanCopies_word (.inr (.inl rfl)))
  | .false_ => exact hscalar (spanCopies_word (.inr (.inr rfl)))
  | .num hl => exact hscalar (spanCopies_plain hl.plain)
  | @Text.str b _ hb =>
    simpa using (valueSpan_string_top hb : valueSpan (f + 1) 0 ('"' :: (b ++ '"' :: rest)) = _)
  | .arrNil hws => exact hbracket (.inr rfl) (.inr rfl) (spanCopies_blanks le_rfl hws) hf
  | .arr hi => exact hbracket (.inr rfl) (.inr rfl) (hi.spanCopies le_rfl) hf
  | .objNil hws => exact hbracket (.inl rfl) (.inl rfl) (spanCopies_blanks le_rfl hws) hf
  | .obj hm => exact hbracket (.inl rfl) (.inl rfl) (hm.spanCopies le_rfl) hf

/-! ### Members -/

theorem Text.skipBlanks_eq {c : List Char} {v : Json} (h : Text c v) {ws : List Char} (hws : Blanks ws)
    (u : List Char) : Json.skipBlanks (ws ++ c ++ u) = c ++ u := by
  obtain ⟨x, r, rfl, hx⟩ := h.head
  rw [List.append_assoc, skipBlanks_append hws, List.cons_append, skipBlanks_cons (blank_of_opens hx)]

theorem endsValue_blanks {ws : List Char} (hws : Blanks ws) {x : Char} (hx : x = ',' ∨ x = '}')
    (rest : List Char) : EndsValue (ws ++ x :: rest) := by
  intro y r heq
  cases ws with
  | nil =>
    simp only [List.nil_append, List.cons.injEq] at heq
    rw [← heq.1]
    rcases hx with rfl | rfl <;> simp
  | cons w ws =>
    simp only [List.cons_append, List.cons.injEq] at heq
    rw [← heq.1]
    exact .inr (.inr (.inr (hws w (by simp))))

/-- A member as `rawMembers` gives it: the member's name, and a text of its value. -/
def RawMember (m : String × Json) (r : String × String) : Prop := r.1 = m.1 ∧ Text r.2.toList m.2

/-- The name of a member, its colon and the value are cut where the reader
reads them: the member is its name and the text of its value. -/
theorem memberSpans_member {ws₁ kc ws₂ ws₃ c ws₄ : List Char} {k : String} {v : Json} (h₁ : Blanks ws₁)
    (hk : Text kc (.str k)) (h₂ : Blanks ws₂) (h₃ : Blanks ws₃) (hc : Text c v) (h₄ : Blanks ws₄)
    {x : Char} (hx : x = ',' ∨ x = '}') (rest : List Char) (f : Nat) :
    memberSpans (f + 1) (ws₁ ++ (kc ++ (ws₂ ++ ':' :: (ws₃ ++ (c ++ (ws₄ ++ x :: rest)))))) =
      if x = ',' then (k, String.ofList c) :: memberSpans f rest else [(k, String.ofList c)] := by
  obtain ⟨b, s, rfl, hb, rfl⟩ := hk.str_inv
  have hkey : parse (String.ofList ('"' :: (b ++ ['"']))) = .ok (.str (String.ofList s)) := by
    simpa using parse_text blanks_nil (Text.str hb) blanks_nil (by simp [height])
  have hskip₁ : skipBlanks (ws₁ ++ ('"' :: b ++ ['"']) ++ (ws₂ ++ ':' :: ws₃ ++ c ++ ws₄ ++ x :: rest)) =
      '"' :: (b ++ '"' :: (ws₂ ++ ':' :: ws₃ ++ c ++ ws₄ ++ x :: rest)) := by
    rw [(Text.str hb).skipBlanks_eq h₁]
    simp
  have hskip₂ : skipBlanks (ws₂ ++ ':' :: ws₃ ++ c ++ ws₄ ++ x :: rest) = ':' :: (ws₃ ++ c ++ ws₄ ++ x :: rest) := by
    rw [List.append_assoc, List.append_assoc, List.append_assoc, skipBlanks_append h₂]
    simp [skipBlanks, isBlank]
  have hskip₃ : skipBlanks (ws₃ ++ c ++ (ws₄ ++ x :: rest)) = c ++ (ws₄ ++ x :: rest) := hc.skipBlanks_eq h₃ _
  have hspan : valueSpan ((c ++ (ws₄ ++ x :: rest)).length + 1) 0 (c ++ (ws₄ ++ x :: rest)) =
      (c, ws₄ ++ x :: rest) := hc.span_top (endsValue_blanks h₄ hx rest) (by omega)
  have hskip₄ : skipBlanks (ws₄ ++ x :: rest) = x :: rest := by
    rw [skipBlanks_append h₄]
    rcases hx with rfl | rfl <;> rfl
  rw [memberSpans]
  simp only [List.append_assoc, List.cons_append, List.nil_append] at hskip₁ hskip₂ ⊢
  rw [hskip₁]
  simp only [hb.stringSpan, hskip₂, hkey]
  simp only [← List.append_assoc] at hskip₃ ⊢
  rw [hskip₃]
  simp only [List.append_assoc] at hspan ⊢
  rw [hspan]
  simp only [hskip₄]
  rcases hx with rfl | rfl <;> rfl

/-- The members of an object's text, cut apart, are its members: each name as
read and each value as the text it was written in. -/
theorem Members.memberSpans {t : List Char} {ms : List (String × Json)} (h : Members t ms) (rest : List Char)
    {fuel : Nat} (hf : t.length < fuel) : List.Forall₂ RawMember ms (memberSpans fuel (t ++ '}' :: rest)) := by
  obtain ⟨f, rfl⟩ : ∃ f, fuel = f + 1 := ⟨fuel - 1, by omega⟩
  match h with
  | .last h₁ hk h₂ h₃ hc h₄ =>
    simp only [List.append_assoc, List.cons_append]
    rw [memberSpans_member h₁ hk h₂ h₃ hc h₄ (.inr rfl) rest f]
    exact .cons ⟨rfl, by simpa using hc⟩ .nil
  | @Members.cons _ _ _ _ _ _ t' _ _ _ h₁ hk h₂ h₃ hc h₄ ht =>
    have hf' : t'.length < f := by simp at hf; omega
    simp only [List.append_assoc, List.cons_append]
    rw [memberSpans_member h₁ hk h₂ h₃ hc h₄ (.inl rfl) (t' ++ '}' :: rest) f]
    exact .cons ⟨rfl, by simpa using hc⟩ (ht.memberSpans rest hf')

/-- An object read from a text is what that text is cut into: each member's
name, with the text its value was written in. -/
theorem rawMembers_of_parse {s : String} {ms : List (String × Json)} (h : parse s = .ok (.obj ms)) :
    List.Forall₂ RawMember ms (rawMembers s) := by
  obtain ⟨ws, c, ws', hs, hws, hc, hws', -⟩ := parse_sound h
  have hopen : ∀ t, Json.skipBlanks (ws ++ '{' :: t) = '{' :: t := fun t => by
    rw [skipBlanks_append hws]
    rfl
  cases hc with
  | @objNil wb hb =>
    have hclose : Json.skipBlanks (wb ++ '}' :: ws') = '}' :: ws' := by
      rw [skipBlanks_append hb]
      rfl
    simp only [rawMembers, hs, List.append_assoc, List.cons_append, List.nil_append, hopen, memberSpans,
      hclose]
    exact .nil
  | obj hm =>
    simp only [rawMembers, hs, List.append_assoc, List.cons_append, hopen]
    exact hm.memberSpans ws' (by simp)

end NetFleet.Json
