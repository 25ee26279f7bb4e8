import Mathlib
import NetFleet.Json.Parse

/-!
# The tokens of JSON text

The reader of `Json.parse` takes a text apart into blanks, literal words,
numbers and strings before it builds arrays and objects from them. This module
gives each kind of token a grammar of its own over `List Char` and proves that
the reader takes exactly the texts the grammar describes:

* `Blanks`: spaces, tabs and line breaks, which `skipBlanks` passes over;
* the words `null`, `true` and `false` (`readWord`);
* `NumText`: an optional minus, an integer part that is `0` or does not start
  with `0`, an optional fraction and an optional exponent (`readNumber`), read
  back whole from any text that does not continue it (`Follows`);
* `Body b s`: the escaped text `b` between the quotes of a string, which decodes
  to the characters `s` (`readString`). Escapes are one letter or four
  hexadecimal digits; a surrogate pair makes one character, and a surrogate
  without its partner reads as U+FFFD.

For each token the reader both accepts its grammar (`…_read`) and accepts
nothing else (`…_sound`).
-/

namespace NetFleet.Json

/-! ### Blanks -/

/-- Text made of blanks only. -/
def Blanks (ws : List Char) : Prop := ∀ c ∈ ws, isBlank c = true

@[simp] theorem blanks_nil : Blanks [] := by simp [Blanks]

theorem blanks_append {ws ws' : List Char} : Blanks (ws ++ ws') ↔ Blanks ws ∧ Blanks ws' := by
  simp only [Blanks, List.mem_append]
  exact ⟨fun h => ⟨fun c hc => h c (.inl hc), fun c hc => h c (.inr hc)⟩,
    fun h c hc => hc.elim (h.1 c) (h.2 c)⟩

theorem skipBlanks_append {ws : List Char} (h : Blanks ws) (t : List Char) :
    skipBlanks (ws ++ t) = skipBlanks t := by
  induction ws with
  | nil => rfl
  | cons c ws ih =>
    have hc : isBlank c = true := h c (by simp)
    simp only [List.cons_append, skipBlanks, hc, if_true]
    exact ih (fun c' hc' => h c' (by simp [hc']))

theorem skipBlanks_cons {c : Char} (h : isBlank c = false) (t : List Char) :
    skipBlanks (c :: t) = c :: t := by
  simp [skipBlanks, h]

/-- Every text is blanks followed by what `skipBlanks` leaves, which starts with
no blank. -/
theorem skipBlanks_spec (cs : List Char) :
    ∃ ws, Blanks ws ∧ cs = ws ++ skipBlanks cs ∧ ∀ c t, skipBlanks cs = c :: t → isBlank c = false := by
  induction cs with
  | nil => exact ⟨[], blanks_nil, rfl, fun c t h => by simp [skipBlanks] at h⟩
  | cons c cs ih =>
    by_cases hc : isBlank c = true
    · obtain ⟨ws, hws, heq, hhead⟩ := ih
      refine ⟨c :: ws, ?_, ?_, ?_⟩
      · intro c' hc'
        rcases List.mem_cons.1 hc' with rfl | h'
        · exact hc
        · exact hws c' h'
      · simp only [skipBlanks, hc, if_true, List.cons_append]
        exact congrArg _ heq
      · simpa [skipBlanks, hc] using hhead
    · refine ⟨[], blanks_nil, by simp [skipBlanks, hc], fun c' t h => ?_⟩
      simp only [skipBlanks, hc, Bool.false_eq_true, if_false, List.cons.injEq] at h
      obtain ⟨rfl, -⟩ := h
      simpa using hc

/-! ### What may follow a value -/

/-- A character that cannot continue a number. -/
def endsNumber (c : Char) : Bool := !(isDigit c || c = '.' || c = 'e' || c = 'E')

/-- Text that may follow a value: it does not start by continuing a number. -/
def Follows (rest : List Char) : Prop := ∀ c t, rest = c :: t → endsNumber c = true

@[simp] theorem follows_nil : Follows [] := by simp [Follows]

theorem follows_cons {c : Char} {t : List Char} (h : endsNumber c = true) : Follows (c :: t) := by
  intro c' t' he
  simp only [List.cons.injEq] at he
  exact he.1 ▸ h

theorem follows_blanks_append {ws t : List Char} (hws : Blanks ws) (ht : Follows t) : Follows (ws ++ t) := by
  cases ws with
  | nil => exact ht
  | cons c ws =>
    refine follows_cons ?_
    have hc := hws c (by simp)
    simp only [isBlank, Bool.or_eq_true, decide_eq_true_eq] at hc
    rcases hc with ((rfl | rfl) | rfl) | rfl <;> rfl

/-! ### Words -/

theorem readWord_go_sound {w cs rest : List Char} {word : String} (h : readWord.go word w cs = .ok rest) :
    cs = w ++ rest := by
  induction w generalizing cs with
  | nil =>
    simp only [readWord.go, Except.ok.injEq] at h
    simp [h]
  | cons c w ih =>
    cases cs with
    | nil => simp [readWord.go] at h
    | cons c' cs =>
      simp only [readWord.go] at h
      split at h
      · next hc => rw [hc, ih h]; rfl
      · cases h

/-! ### Four hexadecimal digits -/

/-- Four hexadecimal digits `h`, which stand for `n`. -/
def Hex4 (h : List Char) (n : Nat) : Prop := h.length = 4 ∧ readHex4 h = .ok (n, [])

theorem readHex4_go_append {k acc n : Nat} {h : List Char} (hl : h.length = k)
    (hh : readHex4.go k acc h = .ok (n, [])) (t : List Char) : readHex4.go k acc (h ++ t) = .ok (n, t) := by
  induction k generalizing acc h with
  | zero =>
    rw [List.length_eq_zero_iff] at hl
    subst hl
    simp only [readHex4.go, Except.ok.injEq, Prod.mk.injEq] at hh
    rw [hh.1]
    rfl
  | succ k ih =>
    cases h with
    | nil => simp at hl
    | cons c h =>
      simp only [List.length_cons, Nat.add_right_cancel_iff] at hl
      simp only [readHex4.go] at hh ⊢
      split at hh
      · next v hv => rw [List.cons_append]; simp only [readHex4.go, hv]; exact ih hl hh
      · cases hh

theorem Hex4.read {h : List Char} {n : Nat} (hx : Hex4 h n) (t : List Char) : readHex4 (h ++ t) = .ok (n, t) :=
  readHex4_go_append hx.1 hx.2 t

theorem readHex4_go_sound {k acc n : Nat} {cs after : List Char} (h : readHex4.go k acc cs = .ok (n, after)) :
    ∃ hx, cs = hx ++ after ∧ hx.length = k ∧ readHex4.go k acc hx = .ok (n, []) := by
  induction k generalizing acc cs with
  | zero =>
    simp only [readHex4.go, Except.ok.injEq, Prod.mk.injEq] at h
    obtain ⟨rfl, rfl⟩ := h
    exact ⟨[], rfl, rfl, rfl⟩
  | succ k ih =>
    cases cs with
    | nil => simp [readHex4.go] at h
    | cons c cs =>
      simp only [readHex4.go] at h
      split at h
      · next v hv =>
        obtain ⟨hx, rfl, hl, hr⟩ := ih h
        exact ⟨c :: hx, rfl, by simp [hl], by simp only [readHex4.go, hv]; exact hr⟩
      · cases h

theorem readHex4_sound {cs after : List Char} {n : Nat} (h : readHex4 cs = .ok (n, after)) :
    ∃ hx, cs = hx ++ after ∧ Hex4 hx n := by
  obtain ⟨hx, rfl, hl, hr⟩ := readHex4_go_sound h
  exact ⟨hx, rfl, hl, hr⟩

/-! ### Strings -/

/-- The character a one-letter escape stands for. -/
def unescape? : Char → Option Char
  | '"' => some '"'
  | '\\' => some '\\'
  | '/' => some '/'
  | 'b' => some '\x08'
  | 'f' => some '\x0c'
  | 'n' => some '\n'
  | 'r' => some '\r'
  | 't' => some '\t'
  | _ => none

/-- The escape of a low surrogate opens the text `b`. -/
def LowNext (b : List Char) : Prop :=
  ∃ h n t, b = '\\' :: 'u' :: h ++ t ∧ Hex4 h n ∧ isLowSurrogate n = true

/-- The escaped text `b` between the quotes of a string, and the characters `s`
it stands for. -/
inductive Body : List Char → List Char → Prop
  | nil : Body [] []
  | plain {c : Char} {b s : List Char} : c ≠ '"' → c ≠ '\\' → 0x20 ≤ c.toNat → Body b s →
      Body (c :: b) (c :: s)
  | escape {e c : Char} {b s : List Char} : unescape? e = some c → Body b s →
      Body ('\\' :: e :: b) (c :: s)
  | code {h b s : List Char} {n : Nat} : Hex4 h n → isHighSurrogate n = false →
      isLowSurrogate n = false → Body b s → Body ('\\' :: 'u' :: h ++ b) (Char.ofNat n :: s)
  | pair {h h' b s : List Char} {n n' : Nat} : Hex4 h n → isHighSurrogate n = true → Hex4 h' n' →
      isLowSurrogate n' = true → Body b s →
      Body ('\\' :: 'u' :: h ++ '\\' :: 'u' :: h' ++ b)
        (Char.ofNat (0x10000 + (n - 0xD800) * 0x400 + (n' - 0xDC00)) :: s)
  | lone {h b s : List Char} {n : Nat} : Hex4 h n →
      (isLowSurrogate n = true ∨ (isHighSurrogate n = true ∧ ¬ LowNext b)) → Body b s →
      Body ('\\' :: 'u' :: h ++ b) ('\uFFFD' :: s)

theorem readUnicodeEscape_code {h : List Char} {n : Nat} (hx : Hex4 h n) (hh : isHighSurrogate n = false)
    (hl : isLowSurrogate n = false) (t : List Char) :
    readUnicodeEscape (h ++ t) = .ok (Char.ofNat n, t) := by
  simp [readUnicodeEscape, hx.read, hh, hl, bind, Except.bind, pure, Except.pure]

theorem readUnicodeEscape_pair {h h' : List Char} {n n' : Nat} (hx : Hex4 h n) (hh : isHighSurrogate n = true)
    (hx' : Hex4 h' n') (hl : isLowSurrogate n' = true) (t : List Char) :
    readUnicodeEscape (h ++ '\\' :: 'u' :: h' ++ t) =
      .ok (Char.ofNat (0x10000 + (n - 0xD800) * 0x400 + (n' - 0xDC00)), t) := by
  simp [readUnicodeEscape, hx.read, hh, hx'.read, hl, bind, Except.bind, pure, Except.pure]

theorem readUnicodeEscape_lone {h : List Char} {n : Nat} (hx : Hex4 h n) {t : List Char}
    (hn : isLowSurrogate n = true ∨ (isHighSurrogate n = true ∧ ¬ LowNext t)) :
    readUnicodeEscape (h ++ t) = .ok ('\uFFFD', t) := by
  simp only [readUnicodeEscape, hx.read, bind, Except.bind, pure, Except.pure]
  rcases hn with hl | ⟨hh, hno⟩
  · have hh : isHighSurrogate n = false := by
      simp only [isLowSurrogate, isHighSurrogate, Bool.and_eq_true, decide_eq_true_eq] at hl ⊢
      simp only [Bool.and_eq_false_iff, decide_eq_false_iff_not, not_le, not_lt]
      omega
    simp [hh, hl]
  · simp only [hh, if_true]
    split
    · next more =>
      split
      · next lo after' hr =>
        split
        · next hlo =>
          obtain ⟨hx', rfl, hh'⟩ := readHex4_sound hr
          exact absurd ⟨hx', lo, after', rfl, hh', hlo⟩ hno
        · rfl
      · rfl
    · rfl

theorem readUnicodeEscape_sound {cs after : List Char} {c : Char} (h : readUnicodeEscape cs = .ok (c, after)) :
    (∃ hx n, cs = hx ++ after ∧ Hex4 hx n ∧ isHighSurrogate n = false ∧ isLowSurrogate n = false ∧
      c = Char.ofNat n) ∨
    (∃ hx n hx' n', cs = hx ++ '\\' :: 'u' :: hx' ++ after ∧ Hex4 hx n ∧ isHighSurrogate n = true ∧
      Hex4 hx' n' ∧ isLowSurrogate n' = true ∧ c = Char.ofNat (0x10000 + (n - 0xD800) * 0x400 + (n' - 0xDC00))) ∨
    (∃ hx n, cs = hx ++ after ∧ Hex4 hx n ∧
      (isLowSurrogate n = true ∨ (isHighSurrogate n = true ∧ ¬ LowNext after)) ∧ c = '\uFFFD') := by
  unfold readUnicodeEscape at h
  rcases hr : readHex4 cs with e | ⟨hi, after₀⟩
  · simp [hr, bind, Except.bind] at h
  obtain ⟨hx, rfl, hhx⟩ := readHex4_sound hr
  simp only [hr, bind, Except.bind, pure, Except.pure] at h
  by_cases hh : isHighSurrogate hi = true
  · simp only [hh, if_true] at h
    -- a high surrogate: its partner is the escape that follows, if that is a low one
    split at h
    · next more =>
      split at h
      · next lo after' hlo =>
        split at h
        · next hl =>
          simp only [Except.ok.injEq, Prod.mk.injEq] at h
          obtain ⟨rfl, rfl⟩ := h
          obtain ⟨hx', rfl, hhx'⟩ := readHex4_sound hlo
          exact Or.inr (Or.inl ⟨hx, hi, hx', lo, by simp, hhx, hh, hhx', hl, rfl⟩)
        · next hl =>
          simp only [Except.ok.injEq, Prod.mk.injEq] at h
          obtain ⟨rfl, rfl⟩ := h
          refine Or.inr (Or.inr ⟨hx, hi, rfl, hhx, .inr ⟨hh, fun ⟨h', n', t, heq, hh', hl'⟩ => hl ?_⟩, rfl⟩)
          simp only [List.cons_append, List.cons.injEq, true_and] at heq
          rw [heq, hh'.read] at hlo
          simp only [Except.ok.injEq, Prod.mk.injEq] at hlo
          exact hlo.1 ▸ hl'
      · next err hlo =>
        simp only [Except.ok.injEq, Prod.mk.injEq] at h
        obtain ⟨rfl, rfl⟩ := h
        refine Or.inr (Or.inr ⟨hx, hi, rfl, hhx, .inr ⟨hh, fun ⟨h', n', t, heq, hh', _⟩ => ?_⟩, rfl⟩)
        simp only [List.cons_append, List.cons.injEq, true_and] at heq
        rw [heq, hh'.read] at hlo
        cases hlo
    · next hno =>
      simp only [Except.ok.injEq, Prod.mk.injEq] at h
      obtain ⟨rfl, rfl⟩ := h
      exact Or.inr (Or.inr ⟨hx, hi, rfl, hhx, .inr ⟨hh, fun ⟨h', n', t, heq, _⟩ => hno _ heq⟩, rfl⟩)
  · simp only [hh, Bool.false_eq_true, if_false] at h
    split at h
    · next hl =>
      simp only [Except.ok.injEq, Prod.mk.injEq] at h
      obtain ⟨rfl, rfl⟩ := h
      exact Or.inr (Or.inr ⟨hx, hi, rfl, hhx, .inl hl, rfl⟩)
    · next hl =>
      simp only [Except.ok.injEq, Prod.mk.injEq] at h
      obtain ⟨rfl, rfl⟩ := h
      exact Or.inl ⟨hx, hi, rfl, hhx, by simpa using hh, by simpa using hl, rfl⟩

theorem readString_escape {e c : Char} (h : unescape? e = some c) (fuel : Nat) (acc t : List Char) :
    readString (fuel + 1) acc ('\\' :: e :: t) = readString fuel (c :: acc) t := by
  unfold unescape? at h
  split at h <;> cases h <;> simp [readString]

theorem readString_backslash {fuel : Nat} {acc t : List Char} {e : Char} {r : String × List Char}
    (h : readString (fuel + 1) acc ('\\' :: e :: t) = .ok r) :
    (∃ c, unescape? e = some c ∧ readString fuel (c :: acc) t = .ok r) ∨
      (e = 'u' ∧ ∃ ch after, readUnicodeEscape t = .ok (ch, after) ∧ readString fuel (ch :: acc) after = .ok r) := by
  simp only [readString, Char.reduceEq, ↓reduceIte] at h
  split at h
  any_goals exact .inl ⟨_, rfl, h⟩
  · split at h
    · next ch after hu => exact .inr ⟨rfl, ch, after, hu, h⟩
    · cases h
  · cases h

/-- A body that does not open with the escape of a low surrogate does not when a
quote follows it either. -/
theorem Body.not_lowNext_append {b s : List Char} (hb : Body b s) (h : ¬ LowNext b) (rest : List Char) :
    ¬ LowNext (b ++ '"' :: rest) := by
  rintro ⟨h', n', t, heq, hh', hl'⟩
  -- the escape would lie inside `b`, whose first token is whole
  have within : ∀ h₀ b', h₀.length = 4 → b = '\\' :: 'u' :: h₀ ++ b' → LowNext b := by
    intro h₀ b' hl₀ hb'
    rw [hb'] at heq ⊢
    simp only [List.cons_append, List.append_assoc, List.cons.injEq, true_and] at heq
    obtain ⟨rfl, -⟩ := List.append_inj heq (by rw [hl₀, hh'.1])
    exact ⟨h₀, n', b', by simp, hh', hl'⟩
  cases hb with
  | nil => simp at heq
  | plain hq hbs _ _ =>
    simp only [List.cons_append, List.cons.injEq] at heq
    exact hbs heq.1
  | escape he _ =>
    simp only [List.cons_append, List.cons.injEq, true_and] at heq
    rw [heq.1] at he
    simp [unescape?] at he
  | code hx _ _ _ => exact h (within _ _ hx.1 rfl)
  | @pair h₀ h₁ b' _ _ _ hx _ _ _ _ => exact h (within h₀ ('\\' :: 'u' :: h₁ ++ b') hx.1 (by simp))
  | lone hx _ _ => exact h (within _ _ hx.1 rfl)

/-- The reader takes the body of a string up to its closing quote, whatever
follows, with any fuel beyond the body's length. -/
theorem Body.read {b s : List Char} (hb : Body b s) :
    ∀ (acc rest : List Char) (fuel : Nat), b.length < fuel →
      readString fuel acc (b ++ '"' :: rest) = .ok (String.ofList (acc.reverse ++ s), rest) := by
  induction hb with
  | nil =>
    intro acc rest fuel hf
    obtain ⟨f, rfl⟩ : ∃ f, fuel = f + 1 := ⟨fuel - 1, by simp at hf; omega⟩
    simp [readString]
  | @plain c b s hq hbs hc _ ih =>
    intro acc rest fuel hf
    obtain ⟨f, rfl⟩ : ∃ f, fuel = f + 1 := ⟨fuel - 1, by simp at hf; omega⟩
    have hlt : ¬ c.toNat < 0x20 := by omega
    simp only [List.cons_append, readString, hq, hbs, hlt, if_false]
    rw [ih (c :: acc) rest f (by simp at hf; omega)]
    simp
  | @escape e c b s he _ ih =>
    intro acc rest fuel hf
    obtain ⟨f, rfl⟩ : ∃ f, fuel = f + 1 := ⟨fuel - 1, by simp at hf; omega⟩
    rw [List.cons_append, List.cons_append, readString_escape he, ih (c :: acc) rest f (by simp at hf; omega)]
    simp
  | @code h b s n hx hh hl _ ih =>
    intro acc rest fuel hf
    obtain ⟨f, rfl⟩ : ∃ f, fuel = f + 1 := ⟨fuel - 1, by simp at hf; omega⟩
    simp only [List.cons_append, List.append_assoc, readString]
    simp only [↓reduceIte, Char.reduceEq, readUnicodeEscape_code hx hh hl]
    rw [ih _ rest f (by simp at hf; omega)]
    simp
  | @pair h h' b s n n' hx hh hx' hl _ ih =>
    intro acc rest fuel hf
    obtain ⟨f, rfl⟩ : ∃ f, fuel = f + 1 := ⟨fuel - 1, by simp at hf; omega⟩
    have e : ('\\' :: 'u' :: h ++ '\\' :: 'u' :: h' ++ b) ++ '"' :: rest =
        '\\' :: 'u' :: (h ++ '\\' :: 'u' :: h' ++ (b ++ '"' :: rest)) := by simp
    rw [e]
    simp only [readString, ↓reduceIte, Char.reduceEq, readUnicodeEscape_pair hx hh hx' hl]
    rw [ih _ rest f (by simp at hf; omega)]
    simp
  | @lone h b s n hx hn hbs ih =>
    intro acc rest fuel hf
    obtain ⟨f, rfl⟩ : ∃ f, fuel = f + 1 := ⟨fuel - 1, by simp at hf; omega⟩
    have hn' : isLowSurrogate n = true ∨ (isHighSurrogate n = true ∧ ¬ LowNext (b ++ '"' :: rest)) :=
      hn.imp_right fun ⟨hh, hno⟩ => ⟨hh, hbs.not_lowNext_append hno rest⟩
    simp only [List.cons_append, List.append_assoc, readString]
    simp only [↓reduceIte, Char.reduceEq, readUnicodeEscape_lone hx hn']
    rw [ih _ rest f (by simp at hf; omega)]
    simp

/-- The reader takes nothing but a body and its closing quote. -/
theorem readString_sound : ∀ {fuel : Nat} {acc cs : List Char} {out : String} {rest : List Char},
    readString fuel acc cs = .ok (out, rest) →
      ∃ b s, cs = b ++ '"' :: rest ∧ Body b s ∧ out = String.ofList (acc.reverse ++ s)
  | 0, _, _, _, _, h => by simp [readString] at h
  | _ + 1, _, [], _, _, h => by simp [readString] at h
  | fuel + 1, acc, c :: cs, out, rest, h => by
    by_cases hq : c = '"'
    · -- the closing quote
      subst hq
      simp only [readString, if_true, Except.ok.injEq, Prod.mk.injEq] at h
      obtain ⟨rfl, rfl⟩ := h
      exact ⟨[], [], rfl, .nil, by simp⟩
    by_cases hb : c = '\\'
    · -- an escape
      subst hb
      cases cs with
      | nil => simp [readString] at h
      | cons e t =>
        rcases readString_backslash h with ⟨c, he, h'⟩ | ⟨rfl, ch, after, hu, h'⟩
        · obtain ⟨b, s, rfl, hbs, rfl⟩ := readString_sound h'
          exact ⟨'\\' :: e :: b, c :: s, rfl, .escape he hbs, by simp⟩
        · obtain ⟨b, s, hafter, hbs, rfl⟩ := readString_sound h'
          rcases readUnicodeEscape_sound hu with
              ⟨hx, n, rfl, hhx, hh, hl, rfl⟩ | ⟨hx, n, hx', n', rfl, hhx, hh, hhx', hl, hch⟩ |
                ⟨hx, n, rfl, hhx, hn, rfl⟩
          · exact ⟨'\\' :: 'u' :: hx ++ b, _, by simp [hafter], .code hhx hh hl hbs, by simp⟩
          · refine ⟨'\\' :: 'u' :: hx ++ '\\' :: 'u' :: hx' ++ b, _, by simp [hafter],
              .pair hhx hh hhx' hl hbs, ?_⟩
            rw [hch, List.reverse_cons, List.append_assoc, List.singleton_append]
          · -- a lone high surrogate: what follows it in the body does not pair with it
            have hn' : isLowSurrogate n = true ∨ (isHighSurrogate n = true ∧ ¬ LowNext b) :=
              hn.imp_right fun ⟨hh, hno⟩ => ⟨hh, fun ⟨h', n', t', heq, hh', hl'⟩ =>
                hno ⟨h', n', t' ++ '"' :: rest, by simp [hafter, heq], hh', hl'⟩⟩
            exact ⟨'\\' :: 'u' :: hx ++ b, _, by simp [hafter], .lone hhx hn' hbs, by simp⟩
    · -- a character that stands for itself
      have hc : ¬ c.toNat < 0x20 := by
        intro hlt
        simp [readString, hq, hb, hlt] at h
      simp only [readString, hq, hb, hc, if_false] at h
      obtain ⟨b, s, rfl, hbs, rfl⟩ := readString_sound h
      exact ⟨c :: b, c :: s, rfl, .plain hq hb (by omega) hbs, by simp⟩

/-! ### Numbers -/

/-- A run of one or more decimal digits. -/
def Digits (ds : List Char) : Prop := ds ≠ [] ∧ ∀ c ∈ ds, isDigit c = true

/-- Text that does not start with a digit. -/
def NoDigit (t : List Char) : Prop := ∀ c t', t = c :: t' → isDigit c = false

/-- The integer part of a number: `0`, or digits that do not start with `0`. -/
def IntText (int : List Char) : Prop := int = ['0'] ∨ (Digits int ∧ int.head? ≠ some '0')

/-- A fraction: a point and digits. -/
def FracText (frac : List Char) : Prop := ∃ ds, frac = '.' :: ds ∧ Digits ds

/-- An exponent: `e` or `E`, an optional sign and digits. -/
def ExpText (exp : List Char) : Prop :=
  ∃ e sg ds, exp = e :: sg ++ ds ∧ (e = 'e' ∨ e = 'E') ∧ (sg = [] ∨ sg = ['+'] ∨ sg = ['-']) ∧ Digits ds

/-- The text of a number: an optional minus, its integer part, an optional
fraction and an optional exponent. -/
def NumText (lit : List Char) : Prop :=
  ∃ sign int frac exp, lit = sign ++ int ++ frac ++ exp ∧ (sign = [] ∨ sign = ['-']) ∧ IntText int ∧
    (frac = [] ∨ FracText frac) ∧ (exp = [] ∨ ExpText exp)

/-- A number starts with its minus sign or its first digit. -/
theorem NumText.head {lit : List Char} (hl : NumText lit) : ∃ x r, lit = x :: r ∧ (x = '-' ∨ isDigit x = true) := by
  obtain ⟨sign, int, frac, exp, rfl, hs, hi, -, -⟩ := hl
  obtain ⟨x, r, rfl, hx⟩ : ∃ x r, int = x :: r ∧ isDigit x = true := by
    rcases hi with rfl | ⟨⟨hne, hd⟩, -⟩
    · exact ⟨'0', [], rfl, rfl⟩
    · obtain ⟨x, r, rfl⟩ := List.exists_cons_of_ne_nil hne
      exact ⟨x, r, rfl, hd x (by simp)⟩
  rcases hs with rfl | rfl
  · exact ⟨x, _, rfl, .inr hx⟩
  · exact ⟨'-', _, rfl, .inl rfl⟩

theorem noDigit_of_follows {t : List Char} (h : Follows t) : NoDigit t := by
  intro c t' he
  have := h c t' he
  simp only [endsNumber, Bool.not_eq_true', Bool.or_eq_false_iff] at this
  exact this.1.1.1

theorem spanDigits_append {ds t : List Char} (hd : ∀ c ∈ ds, isDigit c = true) (ht : NoDigit t) :
    spanDigits (ds ++ t) = (ds, t) := by
  simp only [spanDigits, List.takeWhile_append_of_pos hd, List.dropWhile_append_of_pos hd]
  cases t with
  | nil => simp
  | cons c t => simp [ht c t rfl]

theorem spanDigits_sound {cs ds t : List Char} (h : spanDigits cs = (ds, t)) :
    cs = ds ++ t ∧ (∀ c ∈ ds, isDigit c = true) ∧ NoDigit t := by
  simp only [spanDigits, Prod.mk.injEq] at h
  obtain ⟨rfl, rfl⟩ := h
  refine ⟨List.takeWhile_append_dropWhile.symm, fun c hc => List.mem_takeWhile_imp hc, ?_⟩
  intro c t' he
  have := List.head_dropWhile_not isDigit (l := cs) (by simp [he])
  simpa [he] using this

theorem readExponent_read {sg ds t : List Char} (hsg : sg = [] ∨ sg = ['+'] ∨ sg = ['-']) (hd : Digits ds)
    (ht : NoDigit t) : readExponent (sg ++ (ds ++ t)) = .ok (sg ++ ds, t) := by
  obtain ⟨hne, hdig⟩ := hd
  obtain ⟨d, ds', rfl⟩ := List.exists_cons_of_ne_nil hne
  have hdd : isDigit d = true := hdig d (by simp)
  have hsign : d ≠ '+' ∧ d ≠ '-' := by
    constructor <;> rintro rfl <;> simp [isDigit] at hdd
  have hspan := spanDigits_append hdig ht
  rcases hsg with rfl | rfl | rfl <;>
    simp only [readExponent, List.nil_append, List.cons_append] at hspan ⊢ <;>
    split <;> simp_all

theorem readExponent_sound {cs ex t : List Char} (h : readExponent cs = .ok (ex, t)) :
    ∃ sg ds, cs = sg ++ ds ++ t ∧ ex = sg ++ ds ∧ (sg = [] ∨ sg = ['+'] ∨ sg = ['-']) ∧ Digits ds ∧
      NoDigit t := by
  -- the sign, then a run of digits that starts at once
  obtain ⟨sg, r, hcs, hsg, d, r', rfl, hd, rfl, rfl⟩ : ∃ sg r, cs = sg ++ r ∧ (sg = [] ∨ sg = ['+'] ∨ sg = ['-']) ∧
      ∃ d r', r = d :: r' ∧ isDigit d = true ∧ ex = sg ++ (spanDigits r).1 ∧ t = (spanDigits r).2 := by
    simp only [readExponent] at h
    split at h
    · cases h
    · next d r' hr =>
      split at h
      · next hd =>
        simp only [Except.ok.injEq, Prod.mk.injEq] at h
        obtain ⟨rfl, rfl⟩ := h
        split at hr <;> simp only at hr ⊢ <;> subst hr
        · exact ⟨['+'], _, rfl, .inr (.inl rfl), d, r', rfl, hd, rfl, rfl⟩
        · exact ⟨['-'], _, rfl, .inr (.inr rfl), d, r', rfl, hd, rfl, rfl⟩
        · exact ⟨[], _, rfl, .inl rfl, d, r', rfl, hd, rfl, rfl⟩
      · cases h
  obtain ⟨hr, hdig, hnd⟩ := spanDigits_sound (show spanDigits (d :: r') =
    ((spanDigits (d :: r')).1, (spanDigits (d :: r')).2) from rfl)
  refine ⟨sg, _, by rw [hcs, List.append_assoc, ← hr], rfl, hsg, ⟨?_, hdig⟩, hnd⟩
  intro hnil
  rw [hnil, List.nil_append] at hr
  have := hnd d r' hr.symm
  simp [hd] at this
theorem noDigit_exp_append {exp t : List Char} (he : exp = [] ∨ ExpText exp) (ht : Follows t) :
    NoDigit (exp ++ t) := by
  rcases he with rfl | ⟨e, sg, ds, rfl, hee, -, -⟩
  · exact noDigit_of_follows ht
  · intro c t' h
    simp only [List.cons_append, List.cons.injEq] at h
    rw [← h.1]
    rcases hee with rfl | rfl <;> rfl

/-- A character that follows a number is no point, no exponent mark and no digit. -/
theorem follows_head {c : Char} {t : List Char} (h : Follows (c :: t)) :
    c ≠ '.' ∧ c ≠ 'e' ∧ c ≠ 'E' ∧ isDigit c = false := by
  have hc := h c t rfl
  simp only [endsNumber, Bool.not_eq_true', Bool.or_eq_false_iff, decide_eq_false_iff_not] at hc
  exact ⟨hc.1.1.2, hc.1.2, hc.2, hc.1.1.1⟩

theorem readNumberTail_read {frac exp t : List Char} (hf : frac = [] ∨ FracText frac)
    (he : exp = [] ∨ ExpText exp) (ht : Follows t) :
    readNumberTail (frac ++ (exp ++ t)) = .ok (frac ++ exp, t) := by
  have hnd := noDigit_exp_append he ht
  rcases hf with rfl | ⟨ds, rfl, hne, hdig⟩ <;> rcases he with rfl | ⟨e, sg, ds', rfl, hee, hsg, hds'⟩
  · -- no fraction and no exponent: the text that follows starts no number part
    cases t with
    | nil => rfl
    | cons c t =>
      obtain ⟨hp, he, hE, -⟩ := follows_head ht
      simp only [readNumberTail, List.nil_append, bind, Except.bind, pure, Except.pure]
      split
      · next heq => exact absurd (List.cons.inj heq).1 hp
      · simp [he, hE]
  · -- an exponent only
    rcases hee with rfl | rfl <;>
      simp [readNumberTail, bind, Except.bind, pure, Except.pure,
        readExponent_read hsg hds' (noDigit_of_follows ht)]
  · -- a fraction only
    obtain ⟨d, ds, rfl⟩ := List.exists_cons_of_ne_nil hne
    have hd : isDigit d = true := hdig d (by simp)
    have hspan : spanDigits (d :: (ds ++ t)) = (d :: ds, t) := spanDigits_append hdig hnd
    simp only [readNumberTail, List.nil_append, List.cons_append, hd, if_true, hspan, bind, Except.bind,
      pure, Except.pure]
    cases t with
    | nil => simp
    | cons c t =>
      obtain ⟨-, he, hE, -⟩ := follows_head ht
      simp [he, hE]
  · -- a fraction and an exponent
    obtain ⟨d, ds, rfl⟩ := List.exists_cons_of_ne_nil hne
    have hd : isDigit d = true := hdig d (by simp)
    have hspan : spanDigits (d :: (ds ++ e :: (sg ++ (ds' ++ t)))) = (d :: ds, e :: (sg ++ (ds' ++ t))) := by
      simpa using spanDigits_append hdig hnd
    simp only [readNumberTail, List.cons_append, List.append_assoc, hd, if_true, hspan, bind, Except.bind,
      pure, Except.pure]
    rcases hee with rfl | rfl <;>
      simp [readExponent_read hsg hds' (noDigit_of_follows ht)]

theorem readNumberTail_sound {cs tail after : List Char} (h : readNumberTail cs = .ok (tail, after)) :
    ∃ frac exp, cs = frac ++ exp ++ after ∧ tail = frac ++ exp ∧ (frac = [] ∨ FracText frac) ∧
      (exp = [] ∨ ExpText exp) := by
  simp only [readNumberTail, bind, Except.bind, pure, Except.pure] at h
  -- the fraction stage: a point must be followed by digits, and reading goes on after them
  obtain ⟨frac, rest, rfl, hf, h⟩ : ∃ frac rest, cs = frac ++ rest ∧ (frac = [] ∨ FracText frac) ∧
      ((∃ e r ex, rest = e :: r ∧ (e = 'e' ∨ e = 'E') ∧ readExponent r = .ok (ex, after) ∧
        tail = frac ++ e :: ex) ∨
        ((∀ e r, rest = e :: r → e ≠ 'e' ∧ e ≠ 'E') ∧ tail = frac ∧ after = rest)) := by
    split at h
    · next r =>
      obtain ⟨c, t, rfl⟩ : ∃ c t, r = c :: t := by cases r <;> simp_all
      by_cases hc : isDigit c = true
      swap
      · simp [hc] at h
      simp only [hc, if_true] at h
      obtain ⟨hr, hdig, hnd⟩ := spanDigits_sound (show spanDigits (c :: t) =
        ((spanDigits (c :: t)).1, (spanDigits (c :: t)).2) from rfl)
      generalize (spanDigits (c :: t)).1 = ds, (spanDigits (c :: t)).2 = rest at h hr hdig hnd
      refine ⟨'.' :: ds, rest, by simp [hr], .inr ⟨ds, rfl, ⟨?_, hdig⟩⟩, ?_⟩
      · -- the first digit is read, so the run is not empty
        rintro rfl
        have := hnd c t hr.symm
        simp [hc] at this
      · split at h
        · next e r =>
          split at h
          · next he =>
            split at h
            · cases h
            · next v hv =>
              simp only [Except.ok.injEq, Prod.mk.injEq] at h
              obtain ⟨rfl, rfl⟩ := h
              exact .inl ⟨e, r, v.1, rfl, by simpa using he, hv, by simp⟩
          · next he =>
            simp only [Except.ok.injEq, Prod.mk.injEq] at h
            obtain ⟨rfl, rfl⟩ := h
            refine .inr ⟨fun e' r' heq => ?_, rfl, rfl⟩
            simp only [List.cons.injEq] at heq
            obtain ⟨rfl, rfl⟩ := heq
            simpa using he
        · simp only [Except.ok.injEq, Prod.mk.injEq] at h
          obtain ⟨rfl, rfl⟩ := h
          exact .inr ⟨by simp, rfl, rfl⟩
    · refine ⟨[], cs, by simp, .inl rfl, ?_⟩
      split at h
      · next e r' _ =>
        split at h
        · next he =>
          split at h
          · cases h
          · next v hv =>
            simp only [Except.ok.injEq, Prod.mk.injEq] at h
            obtain ⟨rfl, rfl⟩ := h
            exact .inl ⟨e, r', v.1, rfl, by simpa using he, hv, by simp⟩
        · next he =>
          simp only [Except.ok.injEq, Prod.mk.injEq] at h
          obtain ⟨rfl, rfl⟩ := h
          refine .inr ⟨fun e' r'' heq => ?_, rfl, rfl⟩
          simp only [List.cons.injEq] at heq
          obtain ⟨rfl, rfl⟩ := heq
          simpa using he
      · simp only [Except.ok.injEq, Prod.mk.injEq] at h
        obtain ⟨rfl, rfl⟩ := h
        exact .inr ⟨by simp, rfl, rfl⟩
  -- the exponent stage
  rcases h with ⟨e, r, ex, rfl, hee, hr, htail⟩ | ⟨-, htail, hafter⟩
  · obtain ⟨sg, ds, rfl, rfl, hsg, hds, -⟩ := readExponent_sound hr
    exact ⟨frac, e :: sg ++ ds, by simp, by simp [htail], hf, .inr ⟨e, sg, ds, rfl, hee, hsg, hds⟩⟩
  · exact ⟨frac, [], by simp [hafter], by simp [htail], hf, .inl rfl⟩

/-- A number is read whole, up to the first character that cannot continue it. -/
theorem readNumber_read {lit t : List Char} (hl : NumText lit) (ht : Follows t) :
    readNumber (lit ++ t) = .ok (String.ofList lit, t) := by
  obtain ⟨sign, int, frac, exp, rfl, hs, hi, hf, he⟩ := hl
  have htail := readNumberTail_read hf he ht
  have hnd : NoDigit (frac ++ (exp ++ t)) := by
    rcases hf with rfl | ⟨ds, rfl, -⟩
    · simpa using noDigit_exp_append he ht
    · intro c t' h
      simp only [List.cons_append, List.cons.injEq] at h
      rw [← h.1]
      rfl
  rcases hi with rfl | ⟨⟨hne, hdig⟩, h0⟩
  · rcases hs with rfl | rfl <;> simp [readNumber, htail, bind, Except.bind, pure, Except.pure]
  · obtain ⟨d, ds, rfl⟩ := List.exists_cons_of_ne_nil hne
    have hd : isDigit d = true := hdig d (by simp)
    have hspan : spanDigits (d :: (ds ++ (frac ++ (exp ++ t)))) = (d :: ds, frac ++ (exp ++ t)) := by
      simpa using spanDigits_append hdig hnd
    -- the match on the integer part passes its arm for a leading zero by this fact
    have hz : d ≠ '0' := by simpa using h0
    rcases hs with rfl | rfl
    · have hm : d ≠ '-' := by rintro rfl; simp [isDigit] at hd
      simp [readNumber, hm, hd, hspan, htail, bind, Except.bind, pure, Except.pure]
    · simp [readNumber, hd, hspan, htail, bind, Except.bind, pure, Except.pure]

/-- A minus sign only prefixes the number read after it. -/
theorem readNumber_minus {c : Char} {r : List Char} (hc : c ≠ '-') :
    readNumber ('-' :: c :: r) = (readNumber (c :: r)).map fun (s, after) => ("-" ++ s, after) := by
  simp [readNumber, hc, bind, Except.bind, pure, Except.pure]
  -- both sides read the same integer part and the same tail
  split
  · rfl
  · next r' _ => cases readNumberTail r' <;> rfl
  · split
    · cases readNumberTail (spanDigits (c :: r)).2 <;> rfl
    · rfl

/-- Without a minus sign, the reader takes an integer part and the tail of a number. -/
theorem readNumber_sound_unsigned {c : Char} {r after : List Char} {s : String} (hc : c ≠ '-')
    (h : readNumber (c :: r) = .ok (s, after)) :
    ∃ int tail, c :: r = int ++ tail ++ after ∧ IntText int ∧
      (∃ frac exp, tail = frac ++ exp ∧ (frac = [] ∨ FracText frac) ∧ (exp = [] ∨ ExpText exp)) ∧
      s = String.ofList (int ++ tail) := by
  simp [readNumber, hc, bind, Except.bind, pure, Except.pure] at h
  split at h
  · cases h
  · -- a leading zero is the whole integer part
    next r' heq =>
    split at h
    · cases h
    · next v hv =>
      obtain ⟨tl, af⟩ := v
      simp only [Except.ok.injEq, Prod.mk.injEq] at h
      obtain ⟨rfl, rfl⟩ := h
      obtain ⟨frac, exp, rfl, rfl, hf, he⟩ := readNumberTail_sound hv
      exact ⟨['0'], frac ++ exp, by simp [heq], .inl rfl, ⟨frac, exp, rfl, hf, he⟩, by simp⟩
  · -- otherwise the run of digits
    next c' t hz heq =>
    simp only [List.cons.injEq] at heq
    obtain ⟨rfl, rfl⟩ := heq
    split at h
    · next hd =>
      split at h
      · cases h
      · next v hv =>
        obtain ⟨tl, af⟩ := v
        simp only [Except.ok.injEq, Prod.mk.injEq] at h
        obtain ⟨rfl, rfl⟩ := h
        obtain ⟨frac, exp, hrest, rfl, hf, he⟩ := readNumberTail_sound hv
        obtain ⟨hr, hdig, -⟩ := spanDigits_sound (show spanDigits (c :: r) =
          ((spanDigits (c :: r)).1, (spanDigits (c :: r)).2) from rfl)
        -- the run starts with the first character
        have hhead : (spanDigits (c :: r)).1 = c :: (spanDigits r).1 := by
          simp [spanDigits, hd]
        refine ⟨_, frac ++ exp, ?_, .inr ⟨⟨by simp [hhead], hdig⟩, by simpa [hhead] using hz⟩,
          ⟨frac, exp, rfl, hf, he⟩, by simp⟩
        rw [List.append_assoc, ← hrest, ← hr]
    · cases h

/-- The reader takes nothing but a number, read as its literal text. -/
theorem readNumber_sound {cs after : List Char} {s : String} (h : readNumber cs = .ok (s, after)) :
    ∃ lit, cs = lit ++ after ∧ NumText lit ∧ s = String.ofList lit := by
  cases cs with
  | nil => simp [readNumber, bind, Except.bind] at h
  | cons c r =>
    by_cases hc : c = '-'
    · -- a minus sign, then a number without one
      subst hc
      cases r with
      | nil => simp [readNumber, bind, Except.bind] at h
      | cons c r =>
        by_cases hc : c = '-'
        · subst hc
          simp [readNumber, isDigit, bind, Except.bind] at h
        rw [readNumber_minus hc] at h
        obtain ⟨⟨s', after'⟩, h', hs⟩ : ∃ p, readNumber (c :: r) = .ok p ∧ ("-" ++ p.1, p.2) = (s, after) := by
          cases hr : readNumber (c :: r) with
          | error e => simp [hr, Except.map] at h
          | ok p => simpa [hr, Except.map] using h
        simp only [Prod.mk.injEq] at hs
        obtain ⟨rfl, rfl⟩ := hs
        obtain ⟨int, tail, heq, hi, ⟨frac, exp, rfl, hf, he⟩, rfl⟩ := readNumber_sound_unsigned hc h'
        exact ⟨'-' :: (int ++ (frac ++ exp)), by simp [heq],
          ⟨['-'], int, frac, exp, by simp, .inr rfl, hi, hf, he⟩, by simp⟩
    · obtain ⟨int, tail, heq, hi, ⟨frac, exp, rfl, hf, he⟩, rfl⟩ := readNumber_sound_unsigned hc h
      exact ⟨int ++ (frac ++ exp), by simp [heq], ⟨[], int, frac, exp, by simp, .inl rfl, hi, hf, he⟩, by simp⟩

end NetFleet.Json
