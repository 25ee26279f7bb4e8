import Mathlib
import NetFleet.Proofs.JsonSpans
import NetFleet.Proofs.JsonRender

/-!
# Compact text

`Json.compactText` copies the text of a value, dropping the blanks between its
tokens and writing `<`, `>`, `&` and the two line separators inside strings as
escapes. It is read character by character, with one bit of state: whether it
is inside a string.

* `compactChars_idem`: compacting twice is compacting once, for every text,
  well-formed or not;
* `Text.compact`: the compact text of the text of a value is a text of the same
  value, so it reads back as that value (`parse_compactText`).

The second rests on compaction distributing over the tokens of a text
(`Body.compact_append`, `Text.compact_append`): inside a string an escape is
copied whole, and outside strings every token but a blank is copied.
-/

namespace NetFleet.Json

/-! ### One character at a time -/

@[simp] theorem compactChars_nil (b : Bool) : compactChars b [] = "" := rfl

theorem compactChars_backslash_in (c : Char) (rest : List Char) :
    compactChars true ('\\' :: c :: rest) = "\\" ++ c.toString ++ compactChars true rest := rfl

/-- Outside strings a backslash is copied and the next character read afresh. -/
theorem compactChars_backslash_out (cs : List Char) :
    compactChars false ('\\' :: cs) = "\\" ++ compactChars false cs := by
  cases cs with
  | nil => rfl
  | cons c rest => rfl

theorem compactChars_quote (b : Bool) (rest : List Char) :
    compactChars b ('"' :: rest) = "\"" ++ compactChars (!b) rest := rfl

theorem compactChars_in {c : Char} (hq : c ≠ '"') (hb : c ≠ '\\') (rest : List Char) :
    compactChars true (c :: rest) = compactEscape c ++ compactChars true rest := by
  simp [compactChars, hb]

theorem compactChars_blank {c : Char} (hw : isBlank c = true) (rest : List Char) :
    compactChars false (c :: rest) = compactChars false rest := by
  have hq : c ≠ '"' := by rintro rfl; simp [isBlank] at hw
  have hb : c ≠ '\\' := by rintro rfl; simp [isBlank] at hw
  simp [compactChars, hb, hw]

theorem compactChars_out {c : Char} (hq : c ≠ '"') (hb : c ≠ '\\') (hw : isBlank c = false)
    (rest : List Char) : compactChars false (c :: rest) = c.toString ++ compactChars false rest := by
  simp [compactChars, hb, hw]

theorem toList_toString (c : Char) : c.toString.toList = [c] := by simp

/-- The hexadecimal digits are written as themselves inside strings. -/
theorem compactEscape_of_hexVal {x : Char} {v : Nat} (h : hexVal? x = some v) : compactEscape x = x.toString := by
  have hr := hexVal_toNat h
  have hne : ∀ c : Char, (c.toNat = 38 ∨ c.toNat = 60 ∨ c.toNat = 62) → x ≠ c := by
    rintro c hc rfl
    omega
  have h₁ : x.toNat ≠ 0x2028 := by omega
  have h₂ : x.toNat ≠ 0x2029 := by omega
  simp [compactEscape, hne '<' (by decide), hne '>' (by decide), hne '&' (by decide), h₁, h₂]

theorem compactChars_hexDigits {w : List Char} (hw : ∀ x ∈ w, ∃ v, hexVal? x = some v) (rest : List Char) :
    compactChars true (w ++ rest) = String.ofList w ++ compactChars true rest := by
  induction w with
  | nil => simp
  | cons x w ih =>
    obtain ⟨v, hv⟩ := hw x (by simp)
    have hp := plainChar_of_hexVal hv
    simp only [plainChar, Bool.and_eq_true, bne_iff_ne, ne_eq] at hp
    rw [List.cons_append, compactChars_in hp.1.1.1.1.1.1.1 hp.1.1.1.1.1.1.2, compactEscape_of_hexVal hv,
      ih fun y hy => hw y (by simp [hy])]
    simp [← String.toList_inj]

theorem compactChars_hex {h : List Char} {n : Nat} (hx : Hex4 h n) (rest : List Char) :
    compactChars true (h ++ rest) = String.ofList h ++ compactChars true rest :=
  compactChars_hexDigits hx.hexVal rest

/-! ### Compacting twice -/

/-- Inside strings `&`, `<`, `>` and the line separators are written as
four-digit escapes; every other character as itself. -/
theorem compactEscape_cases (c : Char) :
    (compactEscape c = "\\u" ++ Text.hexPad 4 c.toNat ∧ Hex4 (Text.hexPad 4 c.toNat).toList c.toNat ∧
        (c.toNat = 0x26 ∨ c.toNat = 0x3c ∨ c.toNat = 0x3e ∨ c.toNat = 0x2028 ∨ c.toNat = 0x2029)) ∨
      compactEscape c = c.toString := by
  unfold compactEscape
  split
  · next hc =>
    simp only [Bool.or_eq_true, decide_eq_true_eq] at hc
    have hn : c.toNat = 0x26 ∨ c.toNat = 0x3c ∨ c.toNat = 0x3e ∨ c.toNat = 0x2028 ∨ c.toNat = 0x2029 := by
      rcases hc with (((rfl | rfl) | rfl) | h) | h
      · exact .inr (.inl rfl)
      · exact .inr (.inr (.inl rfl))
      · exact .inl rfl
      · exact .inr (.inr (.inr (.inl h)))
      · exact .inr (.inr (.inr (.inr h)))
    exact .inl ⟨rfl, hex4_hexPad (.inr hn), hn⟩
  · exact .inr rfl

theorem toList_hexEscape (n : Nat) :
    ("\\u" ++ Text.hexPad 4 n).toList = '\\' :: 'u' :: (Text.hexPad 4 n).toList := by
  rw [String.toList_append]
  rfl

/-- An escape written for a character reads, compacted again, as itself. -/
theorem compactChars_escape {c : Char} (hq : c ≠ '"') (hb : c ≠ '\\') (rest : List Char) :
    compactChars true ((compactEscape c).toList ++ rest) = compactEscape c ++ compactChars true rest := by
  rcases compactEscape_cases c with ⟨he, hx, -⟩ | he
  · rw [he, toList_hexEscape, List.cons_append, List.cons_append, compactChars_backslash_in,
      compactChars_hex hx, ← String.toList_inj]
    simp only [String.toList_append, toList_toString, String.toList_ofList, show "\\u".toList = ['\\', 'u'] from rfl,
      show "\\".toList = ['\\'] from rfl, List.cons_append, List.nil_append]
  · rw [he, toList_toString, List.singleton_append, compactChars_in hq hb, he]

/-- Compacting a compacted text changes nothing, whatever the text. -/
theorem compactChars_idem (b : Bool) (cs : List Char) :
    compactChars b (compactChars b cs).toList = compactChars b cs := by
  fun_induction compactChars b cs with
  | case1 => rfl
  | case2 c rest ih =>
    rw [String.toList_append, String.toList_append, toList_toString]
    simp only [show "\\".toList = ['\\'] from rfl, List.cons_append, List.nil_append]
    rw [compactChars_backslash_in, ih]
  | case3 b c rest hb ih =>
    obtain rfl : b = false := by simpa using hb
    rw [String.toList_append, show "\\".toList = ['\\'] from rfl, List.singleton_append,
      compactChars_backslash_out, ih]
  | case4 b rest ih =>
    rw [String.toList_append, show "\"".toList = ['"'] from rfl, List.singleton_append, compactChars_quote, ih]
  | case5 c rest hbs hq ih =>
    by_cases hc : c = '\\'
    · -- a backslash that ends the text
      subst hc
      obtain rfl : rest = [] := by
        cases rest with
        | nil => rfl
        | cons d r => exact (hbs d r rfl rfl).elim
      rfl
    · rw [String.toList_append, compactChars_escape hq hc, ih]
  | case6 b c rest hbs hq hb hw ih =>
    obtain rfl : b = false := by simpa using hb
    exact ih
  | case7 b c rest hbs hq hb hw ih =>
    obtain rfl : b = false := by simpa using hb
    by_cases hc : c = '\\'
    · subst hc
      obtain rfl : rest = [] := by
        cases rest with
        | nil => rfl
        | cons d r => exact (hbs d r rfl rfl).elim
      rfl
    · rw [String.toList_append, toList_toString, List.singleton_append,
        compactChars_out hq hc (by simpa using hw), ih]

/-- Compacting the compact text of a value changes nothing. -/
theorem compactText_idem (s : String) : compactText (compactText s) = compactText s :=
  compactChars_idem false s.toList

/-! ### Strings -/

theorem toList_simpleEscape (e : Char) (x : String) : ("\\" ++ e.toString ++ x).toList = '\\' :: e :: x.toList := by
  simp only [String.toList_append, toList_toString]
  rfl

theorem toList_unicodeEscape (h : List Char) (x : String) :
    ("\\" ++ 'u'.toString ++ (String.ofList h ++ x)).toList = '\\' :: 'u' :: (h ++ x.toList) := by
  simp only [String.toList_append, toList_toString, String.toList_ofList]
  rfl

theorem Hex4.unique {h : List Char} {n n' : Nat} (hx : Hex4 h n) (hx' : Hex4 h n') : n = n' := by
  have h₁ := hx.2.symm.trans hx'.2
  simpa using h₁

/-- Whether a low surrogate's escape opens a text depends on its first six
characters only. -/
theorem LowNext.of_hex {h t : List Char} {n : Nat} (hx : Hex4 h n) (hl : LowNext ('\\' :: 'u' :: (h ++ t)))
    (t' : List Char) : LowNext ('\\' :: 'u' :: (h ++ t')) := by
  obtain ⟨h₀, n₀, t₀, heq, hx₀, hlow⟩ := hl
  simp only [List.cons_append, List.cons.injEq, true_and] at heq
  obtain ⟨rfl, -⟩ := List.append_inj heq (by rw [hx.1, hx₀.1])
  exact ⟨h, n₀, t', by simp, hx₀, hlow⟩

/-- Compaction copies the escapes of a string's body whole, so it distributes
over the body and what follows it. -/
theorem Body.compact_append {b s : List Char} (hb : Body b s) (rest : List Char) :
    compactChars true (b ++ rest) = compactChars true b ++ compactChars true rest := by
  induction hb with
  | nil => simp
  | plain hq hbs _ _ ih =>
    rw [List.cons_append, compactChars_in hq hbs, compactChars_in hq hbs, ih, String.append_assoc]
  | escape _ _ ih =>
    simp only [List.cons_append, compactChars_backslash_in, ih, String.append_assoc]
  | code hx _ _ _ ih =>
    simp only [List.cons_append, List.append_assoc, compactChars_backslash_in, compactChars_hex hx, ih,
      String.append_assoc]
  | pair hx _ hx' _ _ ih =>
    simp only [List.cons_append, List.append_assoc, compactChars_backslash_in, compactChars_hex hx,
      compactChars_hex hx', ih, String.append_assoc]
  | lone hx _ _ ih =>
    simp only [List.cons_append, List.append_assoc, compactChars_backslash_in, compactChars_hex hx, ih,
      String.append_assoc]

/-- A compacted body opens with a low surrogate's escape only where the body did. -/
theorem Body.lowNext_compact {b s : List Char} (hb : Body b s) (hl : LowNext (compactChars true b).toList) :
    LowNext b := by
  cases hb with
  | nil =>
    obtain ⟨_, _, _, heq, -⟩ := hl
    simp [compactChars_nil] at heq
  | @plain c b s hq hbs _ _ =>
    exfalso
    obtain ⟨h₀, n₀, t₀, heq, hx₀, hlow⟩ := hl
    rw [compactChars_in hq hbs, String.toList_append] at heq
    rcases compactEscape_cases c with ⟨he, hx, hn⟩ | he
    · -- the escape written for the character is of no surrogate
      rw [he, toList_hexEscape] at heq
      simp only [List.cons_append, List.cons.injEq, true_and] at heq
      obtain ⟨rfl, -⟩ := List.append_inj heq (by rw [hx.1, hx₀.1])
      obtain rfl := hx.unique hx₀
      simp only [isLowSurrogate, Bool.and_eq_true, decide_eq_true_eq] at hlow
      omega
    · rw [he, toList_toString, List.singleton_append] at heq
      simp only [List.cons_append, List.cons.injEq] at heq
      exact hbs heq.1
  | escape he _ =>
    exfalso
    obtain ⟨_, _, _, heq, -⟩ := hl
    rw [compactChars_backslash_in, toList_simpleEscape] at heq
    simp only [List.cons_append, List.cons.injEq] at heq
    rw [heq.2.1] at he
    cases he
  | code hx _ _ _ =>
    rw [List.cons_append, List.cons_append, compactChars_backslash_in, compactChars_hex hx,
      toList_unicodeEscape] at hl
    simpa using hl.of_hex hx _
  | pair hx _ hx' _ _ =>
    simp only [List.cons_append, List.append_assoc, compactChars_backslash_in, compactChars_hex hx,
      compactChars_hex hx', toList_unicodeEscape] at hl
    simpa using hl.of_hex hx _
  | lone hx _ _ =>
    rw [List.cons_append, List.cons_append, compactChars_backslash_in, compactChars_hex hx,
      toList_unicodeEscape] at hl
    simpa using hl.of_hex hx _

/-- The compacted body of a string stands for the same characters. -/
theorem Body.compact {b s : List Char} (hb : Body b s) : Body (compactChars true b).toList s := by
  induction hb with
  | nil => exact .nil
  | @plain c b s hq hbs h20 _ ih =>
    rw [compactChars_in hq hbs, String.toList_append]
    rcases compactEscape_cases c with ⟨he, -, hn⟩ | he
    · rw [he, toList_hexEscape]
      exact ih.hexEscape (by omega)
    · rw [he, toList_toString, List.singleton_append]
      exact .plain hq hbs h20 ih
  | escape he _ ih =>
    rw [compactChars_backslash_in, toList_simpleEscape]
    exact .escape he ih
  | code hx hh hl _ ih =>
    rw [List.cons_append, List.cons_append, compactChars_backslash_in, compactChars_hex hx, toList_unicodeEscape]
    simpa using Body.code hx hh hl ih
  | pair hx hh hx' hl _ ih =>
    simp only [List.cons_append, List.append_assoc, compactChars_backslash_in, compactChars_hex hx,
      compactChars_hex hx', toList_unicodeEscape]
    simpa using Body.pair hx hh hx' hl ih
  | @lone h b s n hx hn hb ih =>
    rw [List.cons_append, List.cons_append, compactChars_backslash_in, compactChars_hex hx, toList_unicodeEscape]
    have hn' : isLowSurrogate n = true ∨ (isHighSurrogate n = true ∧ ¬ LowNext (compactChars true b).toList) :=
      hn.imp_right fun ⟨hh, hno⟩ => ⟨hh, fun hc => hno (hb.lowNext_compact hc)⟩
    simpa using Body.lone hx hn' ih

/-! ### Values -/

/-- Compaction distributes over `c` and whatever follows it: `c` ends outside
strings and escapes. -/
def Compacts (c : List Char) : Prop :=
  ∀ rest, compactChars false (c ++ rest) = compactChars false c ++ compactChars false rest

theorem Compacts.append {c d : List Char} (hc : Compacts c) (hd : Compacts d) : Compacts (c ++ d) := by
  intro rest
  rw [List.append_assoc, hc, hd, hc d, String.append_assoc]

theorem compacts_single {x : Char} (hq : x ≠ '"') (hb : x ≠ '\\') : Compacts [x] := by
  intro rest
  by_cases hw : isBlank x = true
  · simp [compactChars_blank hw]
  · simp [compactChars_out hq hb (by simpa using hw)]

theorem Compacts.cons {x : Char} {c : List Char} (hq : x ≠ '"') (hb : x ≠ '\\') (hc : Compacts c) :
    Compacts (x :: c) :=
  (compacts_single hq hb).append hc

theorem compacts_chars {w : List Char} (hw : ∀ x ∈ w, x ≠ '"' ∧ x ≠ '\\') : Compacts w := by
  induction w with
  | nil => intro rest; simp
  | cons x w ih =>
    have hx := hw x (by simp)
    exact .cons hx.1 hx.2 (ih fun y hy => hw y (by simp [hy]))

theorem compacts_blanks {ws : List Char} (hws : Blanks ws) : Compacts ws :=
  compacts_chars fun x hx => by
    have := hws x hx
    constructor <;> rintro rfl <;> simp [isBlank] at this

theorem compacts_plain {w : List Char} (hw : ∀ x ∈ w, plainChar x = true) : Compacts w :=
  compacts_chars fun x hx => by
    have := hw x hx
    simp only [plainChar, Bool.and_eq_true, bne_iff_ne, ne_eq] at this
    exact ⟨this.1.1.1.1.1.1.1, this.1.1.1.1.1.1.2⟩

/-- Blanks are dropped. -/
theorem compactChars_blanks {ws : List Char} (hws : Blanks ws) : compactChars false ws = "" := by
  induction ws with
  | nil => rfl
  | cons x ws ih =>
    rw [compactChars_blank (hws x (by simp)), ih fun y hy => hws y (by simp [hy])]

/-- Numbers and literal words are copied. -/
theorem compactChars_plainChars {w : List Char} (hw : ∀ x ∈ w, plainChar x = true) :
    compactChars false w = String.ofList w := by
  induction w with
  | nil => rfl
  | cons x w ih =>
    have hx := hw x (by simp)
    simp only [plainChar, Bool.and_eq_true, bne_iff_ne, ne_eq, Bool.not_eq_true'] at hx
    rw [compactChars_out hx.1.1.1.1.1.1.1 hx.1.1.1.1.1.1.2 hx.2, ih fun y hy => hw y (by simp [hy]),
      ← String.toList_inj]
    simp

/-- A quoted string compacts to the quotes around its compacted body. -/
theorem Body.compact_quoted {b s : List Char} (hb : Body b s) (rest : List Char) :
    compactChars false ('"' :: (b ++ '"' :: rest)) =
      "\"" ++ compactChars true b ++ "\"" ++ compactChars false rest := by
  rw [compactChars_quote, Bool.not_false, hb.compact_append, compactChars_quote, Bool.not_true]
  simp only [String.append_assoc]

theorem Body.compacts {b s : List Char} (hb : Body b s) : Compacts ('"' :: b ++ ['"']) := by
  intro rest
  have h₁ := hb.compact_quoted rest
  have h₂ := hb.compact_quoted []
  simp only [compactChars_nil, String.append_empty] at h₂
  simp only [List.cons_append, List.append_assoc, List.nil_append]
  rw [h₁, h₂]

theorem literal_plain {w : List Char} (hw : w = ['n', 'u', 'l', 'l'] ∨ w = ['t', 'r', 'u', 'e'] ∨
    w = ['f', 'a', 'l', 's', 'e']) : ∀ x ∈ w, plainChar x = true := by
  rcases hw with rfl | rfl | rfl <;> simp [plainChar, isBlank]

mutual

theorem Text.compacts {c : List Char} {v : Json} (h : Text c v) : Compacts c := by
  match h with
  | .null => exact compacts_plain (literal_plain (.inl rfl))
  | .true_ => exact compacts_plain (literal_plain (.inr (.inl rfl)))
  | .false_ => exact compacts_plain (literal_plain (.inr (.inr rfl)))
  | .num hl => exact compacts_plain hl.plain
  | .str hb => exact hb.compacts
  | .arrNil hws => exact .cons (by decide) (by decide) ((compacts_blanks hws).append (compacts_single (by decide) (by decide)))
  | .arr hi => exact .cons (by decide) (by decide) (hi.compacts.append (compacts_single (by decide) (by decide)))
  | .objNil hws => exact .cons (by decide) (by decide) ((compacts_blanks hws).append (compacts_single (by decide) (by decide)))
  | .obj hm => exact .cons (by decide) (by decide) (hm.compacts.append (compacts_single (by decide) (by decide)))

theorem Items.compacts {t : List Char} {vs : List Json} (h : Items t vs) : Compacts t := by
  match h with
  | .last hws hc hws' => exact ((compacts_blanks hws).append hc.compacts).append (compacts_blanks hws')
  | .cons hws hc hws' ht =>
    exact (((compacts_blanks hws).append hc.compacts).append (compacts_blanks hws')).append
      (.cons (by decide) (by decide) ht.compacts)

theorem Members.compacts {t : List Char} {ms : List (String × Json)} (h : Members t ms) : Compacts t := by
  match h with
  | .last h₁ hk h₂ h₃ hc h₄ =>
    exact (((((compacts_blanks h₁).append hk.compacts).append (compacts_blanks h₂)).append
      (.cons (by decide) (by decide) (compacts_blanks h₃))).append hc.compacts).append (compacts_blanks h₄)
  | .cons h₁ hk h₂ h₃ hc h₄ ht =>
    exact ((((((compacts_blanks h₁).append hk.compacts).append (compacts_blanks h₂)).append
      (.cons (by decide) (by decide) (compacts_blanks h₃))).append hc.compacts).append (compacts_blanks h₄)).append
      (.cons (by decide) (by decide) ht.compacts)

end

theorem compactChars_blanks_append {ws : List Char} (hws : Blanks ws) (rest : List Char) :
    compactChars false (ws ++ rest) = compactChars false rest := by
  rw [compacts_blanks hws, compactChars_blanks hws, String.empty_append]

/-- A token with blanks around it compacts to the token. -/
theorem Compacts.padded {ws c ws' : List Char} (hws : Blanks ws) (hc : Compacts c) (hws' : Blanks ws')
    (rest : List Char) :
    compactChars false (ws ++ (c ++ (ws' ++ rest))) = compactChars false c ++ compactChars false rest := by
  rw [compactChars_blanks_append hws, hc, compactChars_blanks_append hws']

theorem Compacts.padded_end {ws c ws' : List Char} (hws : Blanks ws) (hc : Compacts c) (hws' : Blanks ws') :
    compactChars false (ws ++ (c ++ ws')) = compactChars false c := by
  simpa using hc.padded hws hws' []

theorem compactChars_punct {x : Char} (hx : x = '[' ∨ x = ']' ∨ x = '{' ∨ x = '}' ∨ x = ',' ∨ x = ':')
    (rest : List Char) : compactChars false (x :: rest) = x.toString ++ compactChars false rest := by
  rcases hx with rfl | rfl | rfl | rfl | rfl | rfl <;> exact compactChars_out (by decide) (by decide) rfl rest

/-- The text between brackets compacts between the brackets. -/
theorem Compacts.bracket {x y : Char} (hx : x = '[' ∨ x = '{') (hy : y = ']' ∨ y = '}') {t : List Char}
    (ht : Compacts t) : (compactChars false (x :: t ++ [y])).toList = x :: (compactChars false t).toList ++ [y] := by
  have hx' : x = '[' ∨ x = ']' ∨ x = '{' ∨ x = '}' ∨ x = ',' ∨ x = ':' := by
    rcases hx with rfl | rfl <;> simp
  have hy' : y = '[' ∨ y = ']' ∨ y = '{' ∨ y = '}' ∨ y = ',' ∨ y = ':' := by
    rcases hy with rfl | rfl <;> simp
  rw [List.cons_append, compactChars_punct hx', ht, compactChars_punct hy']
  simp

mutual

/-- The compact text of the text of a value is a text of the same value. -/
theorem Text.compact {c : List Char} {v : Json} (h : Text c v) : Text (compactChars false c).toList v := by
  match h with
  | .null => rw [compactChars_plainChars (literal_plain (.inl rfl)), String.toList_ofList]; exact .null
  | .true_ => rw [compactChars_plainChars (literal_plain (.inr (.inl rfl))), String.toList_ofList]; exact .true_
  | .false_ => rw [compactChars_plainChars (literal_plain (.inr (.inr rfl))), String.toList_ofList]; exact .false_
  | .num hl => rw [compactChars_plainChars hl.plain, String.toList_ofList]; exact .num hl
  | @Text.str b _ hb =>
    have e : compactChars false ('"' :: b ++ ['"']) = "\"" ++ compactChars true b ++ "\"" := by
      simpa using hb.compact_quoted []
    rw [e, String.toList_append, String.toList_append]
    simpa using Text.str hb.compact
  | .arrNil hws =>
    rw [(compacts_blanks hws).bracket (.inl rfl) (.inl rfl), compactChars_blanks hws]
    exact .arrNil blanks_nil
  | .arr hi =>
    rw [hi.compacts.bracket (.inl rfl) (.inl rfl)]
    exact .arr hi.compact
  | .objNil hws =>
    rw [(compacts_blanks hws).bracket (.inr rfl) (.inr rfl), compactChars_blanks hws]
    exact .objNil blanks_nil
  | .obj hm =>
    rw [hm.compacts.bracket (.inr rfl) (.inr rfl)]
    exact .obj hm.compact

theorem Items.compact {t : List Char} {vs : List Json} (h : Items t vs) : Items (compactChars false t).toList vs := by
  match h with
  | .last hws hc hws' =>
    simp only [List.append_assoc]
    rw [hc.compacts.padded_end hws hws']
    simpa using Items.last blanks_nil hc.compact blanks_nil
  | .cons hws hc hws' ht =>
    simp only [List.append_assoc]
    rw [hc.compacts.padded hws hws', compactChars_punct (by simp), String.toList_append, String.toList_append]
    simpa [toList_toString] using Items.cons blanks_nil hc.compact blanks_nil ht.compact

theorem Members.compact {t : List Char} {ms : List (String × Json)} (h : Members t ms) :
    Members (compactChars false t).toList ms := by
  match h with
  | .last h₁ hk h₂ h₃ hc h₄ =>
    simp only [List.append_assoc, List.cons_append]
    rw [hk.compacts.padded h₁ h₂, compactChars_punct (by simp), hc.compacts.padded_end h₃ h₄]
    simpa [toList_toString] using Members.last blanks_nil hk.compact blanks_nil blanks_nil hc.compact blanks_nil
  | .cons h₁ hk h₂ h₃ hc h₄ ht =>
    simp only [List.append_assoc, List.cons_append]
    rw [hk.compacts.padded h₁ h₂, compactChars_punct (by simp), hc.compacts.padded h₃ h₄, compactChars_punct (by simp)]
    simpa [toList_toString] using
      Members.cons blanks_nil hk.compact blanks_nil blanks_nil hc.compact blanks_nil ht.compact

end

/-- The compact text of a value's text reads as the value. -/
theorem parse_compactText {c : List Char} {v : Json} (h : Text c v) (hh : height v ≤ maxDepth) :
    parse (compactText (String.ofList c)) = .ok v := by
  have hc := h.compact
  rw [compactText, String.toList_ofList]
  simpa using parse_text blanks_nil hc blanks_nil hh

end NetFleet.Json
