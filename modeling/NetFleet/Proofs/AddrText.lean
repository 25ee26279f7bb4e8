import Mathlib
import NetFleet.Net.Addr

/-!
# Reading back the canonical text of an address

`Addr.render` writes an address in its canonical form and `Addr.parse` reads the
textual forms of addresses. The canonical text of every address reads back as that
address (`parse_render`); so two addresses with the same canonical text are equal
(`render_injective`).

The proof follows the reader. A dotted quad is four numerals without leading zeros
(`readQuad_quad`). An IPv6 text is read group by group (`readGroups_hexGroups`), with
the `::` of the first longest zero run read as the bytes it stands for
(`readGroups_hexGroups_ellipsis`, `zeroRun_spec`), and an IPv4-mapped address as its
last two groups written as a dotted quad. The zone follows the first percent sign,
which no canonical body holds.
-/

namespace NetFleet.Net.Addr

/-! ### Digits -/

/-- The characters of a numeral are the digit characters of its digits. -/
theorem mem_toDigits {b n : Nat} {c : Char} (hb : 1 < b) (hc : c ∈ Nat.toDigits b n) :
    ∃ d < b, c = d.digitChar := by
  induction n using Nat.strong_induction_on with
  | _ n ih =>
    rw [Nat.toDigits_eq_if hb] at hc
    split at hc
    · exact ⟨n, ‹_›, by simpa using hc⟩
    · rcases List.mem_append.1 hc with hc | hc
      · exact ih (n / b) (Nat.div_lt_self (by omega) hb) hc
      · exact ⟨n % b, Nat.mod_lt _ (by omega), by simpa using hc⟩

theorem decimal_digitChar : ∀ d, d < 10 →
    '0' ≤ d.digitChar ∧ d.digitChar ≤ '9' ∧ d.digitChar.toNat - '0'.toNat = d := by
  decide

/-- The value the hexadecimal reader gives a digit character. -/
theorem hex_digitChar : ∀ d, d < 16 →
    (if '0' ≤ d.digitChar ∧ d.digitChar ≤ '9' then some (d.digitChar.toNat - '0'.toNat)
      else if 'a' ≤ d.digitChar ∧ d.digitChar ≤ 'f' then some (d.digitChar.toNat - 'a'.toNat + 10)
      else if 'A' ≤ d.digitChar ∧ d.digitChar ≤ 'F' then some (d.digitChar.toNat - 'A'.toNat + 10)
      else none) = some d := by
  decide

/-- No digit character separates the parts of an address. -/
theorem digitChar_not_separator : ∀ d, d < 16 →
    d.digitChar ≠ ':' ∧ d.digitChar ≠ '.' ∧ d.digitChar ≠ '%' := by
  decide

/-- A character of a numeral in base ten or sixteen is none of `:`, `.` and `%`. -/
theorem not_separator_of_mem_toDigits {b n : Nat} {c : Char} (hb : 1 < b) (hb' : b ≤ 16)
    (hc : c ∈ Nat.toDigits b n) : c ≠ ':' ∧ c ≠ '.' ∧ c ≠ '%' := by
  obtain ⟨d, hd, rfl⟩ := mem_toDigits hb hc
  exact digitChar_not_separator d (by omega)

/-! ### Dotted quads -/

section Quad

variable {input : String} {n i : Nat} {prev : Option Char} {val digLen : Nat} {fields : List Nat}
  {rest : List Char}

theorem readQuad.go_digit {d : Nat} (hd : d < 10) (hlead : digLen = 1 → val ≠ 0)
    (hval : val * 10 + d ≤ 255) :
    readQuad.go input n (d.digitChar :: rest) i prev val digLen fields =
      readQuad.go input n rest (i + 1) (some d.digitChar) (val * 10 + d) (digLen + 1) fields := by
  obtain ⟨h₀, h₉, hv⟩ := decimal_digitChar d hd
  rw [readQuad.go.eq_2, if_pos ⟨h₀, h₉⟩, if_neg (by omega)]
  simp only [hv, if_neg (show ¬ val * 10 + d > 255 by omega)]

/-- The numeral of an octet is read as that octet. -/
theorem readQuad.go_toDigits {o : Nat} (ho : o < 256) :
    readQuad.go input n (Nat.toDigits 10 o ++ rest) i prev 0 0 fields =
      readQuad.go input n rest (i + (Nat.toDigits 10 o).length) (Nat.toDigits 10 o).getLast? o
        (Nat.toDigits 10 o).length fields := by
  -- on the numeral: its last digit is read after the numeral of `o / 10`, which is not `0`
  induction o using Nat.strong_induction_on generalizing rest with
  | _ o ih =>
    rw [Nat.toDigits_eq_if (by decide)]
    split
    · rw [List.singleton_append, readQuad.go_digit ‹_› (fun _ => by omega) (by omega)]
      simp
    · have hq : o / 10 < o := Nat.div_lt_self (by omega) (by decide)
      have hd : o % 10 < 10 := Nat.mod_lt _ (by decide)
      rw [List.append_assoc, List.singleton_append, ih (o / 10) hq (by omega),
        readQuad.go_digit hd (fun _ => by omega) (by omega)]
      simp only [List.length_append, List.length_singleton, Nat.add_assoc, List.getLast?_concat]
      rw [Nat.div_add_mod' o 10]

theorem readQuad.go_dot (hi : i ≠ 0) (hn : i ≠ n - 1) (hprev : prev ≠ some '.')
    (hf : fields.length ≠ 3) :
    readQuad.go input n ('.' :: rest) i prev val digLen fields =
      readQuad.go input n rest (i + 1) (some '.') 0 0 (fields ++ [val]) := by
  rw [readQuad.go.eq_2, if_neg (by decide), if_pos rfl, if_neg (not_or.2 ⟨hi, not_or.2 ⟨hn, hprev⟩⟩),
    if_neg hf]

theorem getLast?_toDigits_ne_dot (o : Nat) : (Nat.toDigits 10 o).getLast? ≠ some '.' :=
  fun h => (not_separator_of_mem_toDigits (by decide) (by decide) (List.mem_of_getLast? h)).2.1 rfl

end Quad

/-- Four octets written as a dotted quad are read back as those octets. -/
theorem readQuad_quad {input : String} {a b c d : Nat} (ha : a < 256) (hb : b < 256) (hc : c < 256)
    (hd : d < 256) :
    readQuad input (Nat.toDigits 10 a ++ '.' :: (Nat.toDigits 10 b ++ '.' ::
      (Nat.toDigits 10 c ++ '.' :: Nat.toDigits 10 d))) = .ok [a, b, c, d] := by
  have la := @Nat.length_toDigits_pos 10 a
  have lb := @Nat.length_toDigits_pos 10 b
  have lc := @Nat.length_toDigits_pos 10 c
  have ld := @Nat.length_toDigits_pos 10 d
  simp only [readQuad, List.length_append, List.length_cons]
  rw [readQuad.go_toDigits ha, readQuad.go_dot (by omega) (by omega) (getLast?_toDigits_ne_dot a) (by simp),
    readQuad.go_toDigits hb, readQuad.go_dot (by omega) (by omega) (getLast?_toDigits_ne_dot b) (by simp),
    readQuad.go_toDigits hc, readQuad.go_dot (by omega) (by omega) (getLast?_toDigits_ne_dot c) (by simp),
    ← List.append_nil (Nat.toDigits 10 d), readQuad.go_toDigits hd, readQuad.go.eq_1]
  simp

theorem dotted_toList (n : Nat) :
    (dotted n).toList = Nat.toDigits 10 (n / Nat.pow 2 24 % 256) ++ '.' ::
      (Nat.toDigits 10 (n / Nat.pow 2 16 % 256) ++ '.' ::
        (Nat.toDigits 10 (n / Nat.pow 2 8 % 256) ++ '.' :: Nat.toDigits 10 (n % 256))) := by
  simp [dotted, octets, Nat.toString_eq_repr, Nat.repr_eq_ofList_toDigits]

theorem readQuad_dotted (input : String) (n : Nat) : readQuad input (dotted n).toList = .ok (octets n) := by
  have h : ∀ k, n / k % 256 < 256 := fun _ => Nat.mod_lt _ (by decide)
  rw [dotted_toList, readQuad_quad (h _) (h _) (h _) (Nat.mod_lt _ (by decide))]
  rfl

/-! ### Hexadecimal fields -/

section HexField

variable {input : String} {s rest : List Char} {off acc : Nat}

theorem readHexField.go_digit {d : Nat} (hd : d < 16) (hoff : off ≤ 3) :
    readHexField.go input s (d.digitChar :: rest) off acc =
      readHexField.go input s rest (off + 1) (acc * 16 + d) := by
  rw [readHexField.go.eq_2, hex_digitChar d hd]
  simp only [if_neg (show ¬ off > 3 by omega)]

/-- The hexadecimal numeral of a group is read as that group. -/
theorem readHexField.go_toDigits {g : Nat} (hg : off + (Nat.toDigits 16 g).length ≤ 4) :
    readHexField.go input s (Nat.toDigits 16 g ++ rest) off acc =
      readHexField.go input s rest (off + (Nat.toDigits 16 g).length)
        (acc * 16 ^ (Nat.toDigits 16 g).length + g) := by
  induction g using Nat.strong_induction_on generalizing rest with
  | _ g ih =>
    rw [Nat.toDigits_eq_if (by decide)] at hg ⊢
    by_cases hlt : g < 16
    · simp only [hlt, if_true, List.length_singleton] at hg ⊢
      rw [List.singleton_append, readHexField.go_digit hlt (by omega)]
      simp
    · simp only [hlt, if_false, List.length_append, List.length_singleton] at hg ⊢
      have hq : g / 16 < g := Nat.div_lt_self (by omega) (by decide)
      have hd : g % 16 < 16 := Nat.mod_lt _ (by decide)
      rw [List.append_assoc, List.singleton_append, ih (g / 16) hq (by omega),
        readHexField.go_digit hd (by omega)]
      have hg' : g / 16 * 16 + g % 16 = g := Nat.div_add_mod' g 16
      congr 1
      rw [pow_succ, Nat.add_mul, Nat.add_assoc, hg', Nat.mul_assoc]

/-- Digit characters, at most four in all, are read as one field. -/
theorem readHexField.go_digits {cs : List Char} (hcs : ∀ c ∈ cs, ∃ d < 16, c = d.digitChar)
    (hlen : off + cs.length ≤ 4) :
    ∃ v, readHexField.go input s (cs ++ rest) off acc = readHexField.go input s rest (off + cs.length) v := by
  induction cs generalizing off acc with
  | nil => exact ⟨acc, by simp⟩
  | cons c cs ih =>
    obtain ⟨d, hd, rfl⟩ := hcs c (by simp)
    simp only [List.length_cons] at hlen
    obtain ⟨v, hv⟩ : ∃ v, readHexField.go input s (cs ++ rest) (off + 1) (acc * 16 + d) =
        readHexField.go input s rest (off + 1 + cs.length) v :=
      ih (fun c hc => hcs c (List.mem_cons_of_mem _ hc)) (by omega)
    refine ⟨v, ?_⟩
    rw [List.cons_append, readHexField.go_digit hd (by omega), hv]
    simp only [List.length_cons, Nat.add_assoc, Nat.add_comm 1]

/-- A field ends at a colon or a dot. -/
theorem readHexField.go_stop {c : Char} (hc : c = ':' ∨ c = '.') :
    readHexField.go input s (c :: rest) off acc = .ok (off, acc) := by
  rcases hc with rfl | rfl <;> simp [readHexField.go.eq_2]

theorem length_toDigits_group {g : Nat} (hg : g < 65536) : (Nat.toDigits 16 g).length ≤ 4 :=
  (Nat.length_toDigits_le_iff (by decide) (by decide)).2 hg

/-- A group is read from its numeral when a colon or nothing follows. -/
theorem readHexField_group {g : Nat} (hg : g < 65536) (hrest : rest = [] ∨ rest.head? = some ':') :
    readHexField input (Nat.toDigits 16 g ++ rest) = .ok ((Nat.toDigits 16 g).length, g) := by
  unfold readHexField
  rw [readHexField.go_toDigits (by simpa using length_toDigits_group hg)]
  rcases rest with _ | ⟨c, r⟩
  · simp [readHexField.go.eq_1]
  · simp only [List.head?_cons, Option.some.injEq, List.cons_ne_nil, false_or] at hrest
    rw [readHexField.go_stop (.inl hrest)]
    simp

/-- The numeral of an octet followed by a dot is read as one field. -/
theorem readHexField_octet {o : Nat} (ho : o < 256) :
    ∃ v, readHexField input (Nat.toDigits 10 o ++ '.' :: rest) = .ok ((Nat.toDigits 10 o).length, v) := by
  have hlen : (Nat.toDigits 10 o).length ≤ 3 := (Nat.length_toDigits_le_iff (by decide) (by decide)).2 (by omega)
  have hdigits : ∀ c ∈ Nat.toDigits 10 o, ∃ d < 16, c = d.digitChar := fun c hc => by
    obtain ⟨d, hd, rfl⟩ := mem_toDigits (by decide) hc
    exact ⟨d, by omega, rfl⟩
  let t := Nat.toDigits 10 o ++ '.' :: rest
  obtain ⟨v, hv⟩ : ∃ v, readHexField.go input t t 0 0 =
      readHexField.go input t ('.' :: rest) (0 + (Nat.toDigits 10 o).length) v :=
    readHexField.go_digits hdigits (by omega)
  refine ⟨v, ?_⟩
  unfold readHexField
  rw [hv, readHexField.go_stop (.inr rfl)]
  simp

end HexField

/-! ### Groups -/

/-- The bytes of groups, two for each. -/
def groupBytes (gs : List Nat) : List Nat := gs.flatMap fun g => [g / 256, g % 256]

@[simp] theorem groupBytes_nil : groupBytes [] = [] := rfl

@[simp] theorem groupBytes_cons (g : Nat) (gs : List Nat) :
    groupBytes (g :: gs) = g / 256 :: g % 256 :: groupBytes gs := rfl

@[simp] theorem groupBytes_append (gs hs : List Nat) :
    groupBytes (gs ++ hs) = groupBytes gs ++ groupBytes hs := List.flatMap_append

@[simp] theorem length_groupBytes (gs : List Nat) : (groupBytes gs).length = 2 * gs.length := by
  induction gs with
  | nil => rfl
  | cons g gs ih => simp [ih]; omega

theorem groupBytes_replicate_zero (l : Nat) : groupBytes (List.replicate l 0) = List.replicate (2 * l) 0 := by
  induction l with
  | zero => rfl
  | succ l ih => simp [List.replicate_succ, ih, Nat.mul_succ]

@[simp] theorem hexGroups_nil : (hexGroups []).toList = [] := rfl

theorem hexGroups_singleton (g : Nat) : (hexGroups [g]).toList = Nat.toDigits 16 g := by
  simp [hexGroups]

theorem hexGroups_cons_cons (g h : Nat) (t : List Nat) :
    (hexGroups (g :: h :: t)).toList = Nat.toDigits 16 g ++ ':' :: (hexGroups (h :: t)).toList := by
  simp [hexGroups, String.toList_intercalate]

/-- The text of groups starts with the numeral of the first, and a colon follows it
when more text does. -/
theorem hexGroups_cons (g : Nat) (t : List Nat) :
    ∃ r, (hexGroups (g :: t)).toList = Nat.toDigits 16 g ++ r ∧ (r = [] ∨ r.head? = some ':') := by
  rcases t with _ | ⟨h, t⟩
  · exact ⟨[], by simp [hexGroups_singleton]⟩
  · exact ⟨_, hexGroups_cons_cons g h t, .inr rfl⟩

/-- A colon after the text of groups comes after the numeral of the first group or
after a colon of the text. -/
theorem hexGroups_cons_colon (g : Nat) (t : List Nat) (q : List Char) :
    ∃ r, (hexGroups (g :: t)).toList ++ ':' :: q = Nat.toDigits 16 g ++ ':' :: r := by
  obtain ⟨r, hr, hr'⟩ := hexGroups_cons g t
  rw [hr, List.append_assoc]
  rcases r with _ | ⟨x, r⟩
  · exact ⟨q, rfl⟩
  · simp only [List.head?_cons, Option.some.injEq] at hr'
    rcases hr' with hr' | rfl
    · cases hr'
    · exact ⟨r ++ ':' :: q, rfl⟩

theorem hexGroups_head (g : Nat) (t : List Nat) :
    (hexGroups (g :: t)).toList ≠ [] ∧ (hexGroups (g :: t)).toList.head? ≠ some ':' := by
  obtain ⟨r, hr, -⟩ := hexGroups_cons g t
  rw [hr, List.head?_append_of_ne_nil _ Nat.toDigits_ne_nil]
  refine ⟨by simp [Nat.toDigits_ne_nil], fun h => ?_⟩
  exact (not_separator_of_mem_toDigits (by decide) le_rfl (List.mem_of_head? h)).1 rfl

/-- The text of groups holds only digits and colons. -/
theorem mem_hexGroups {gs : List Nat} {c : Char} (hc : c ∈ (hexGroups gs).toList) :
    c = ':' ∨ ∃ g, c ∈ Nat.toDigits 16 g := by
  induction gs with
  | nil => simp [hexGroups] at hc
  | cons g t ih =>
    rcases t with _ | ⟨h, t⟩
    · rw [hexGroups_singleton] at hc
      exact .inr ⟨g, hc⟩
    · rw [hexGroups_cons_cons] at hc
      rcases List.mem_append.1 hc with hc | hc
      · exact .inr ⟨g, hc⟩
      · rcases List.mem_cons.1 hc with rfl | hc
        · exact .inl rfl
        · exact ih hc

theorem percent_not_mem_hexGroups (gs : List Nat) : '%' ∉ (hexGroups gs).toList := by
  intro h
  rcases mem_hexGroups h with h | ⟨g, hg⟩
  · cases h
  · exact (not_separator_of_mem_toDigits (by decide) le_rfl hg).2.2 rfl

section Groups

variable {input : String} {rest : List Char} {f g : Nat} {bytes : List Nat} {ell : Option Nat}

theorem readGroups_last (hg : g < 65536) (hb : bytes.length < 16) :
    readGroups input (f + 1) (Nat.toDigits 16 g) bytes ell = .ok ([], bytes ++ [g / 256, g % 256], ell) := by
  rw [readGroups.eq_2, if_neg (by omega), ← List.append_nil (Nat.toDigits 16 g),
    readHexField_group hg (.inl rfl)]
  simp [bind, Except.bind, pure, Except.pure, Nat.toDigits_ne_nil]

theorem readGroups_colon (hg : g < 65536) (hb : bytes.length < 16) (hr : rest ≠ [])
    (hhead : rest.head? ≠ some ':') :
    readGroups input (f + 1) (Nat.toDigits 16 g ++ ':' :: rest) bytes ell =
      readGroups input f rest (bytes ++ [g / 256, g % 256]) ell := by
  rcases rest with _ | ⟨x, r⟩
  · exact absurd rfl hr
  · simp only [List.head?_cons, ne_eq, Option.some.injEq] at hhead
    rw [readGroups.eq_2, if_neg (by omega), readHexField_group hg (.inr rfl)]
    simp [bind, Except.bind, Nat.toDigits_ne_nil, hhead]

theorem readGroups_ellipsis_last (hg : g < 65536) (hb : bytes.length < 16) :
    readGroups input (f + 1) (Nat.toDigits 16 g ++ [':', ':']) bytes none =
      .ok ([], bytes ++ [g / 256, g % 256], some (bytes.length + 2)) := by
  rw [readGroups.eq_2, if_neg (by omega), readHexField_group hg (.inr rfl)]
  simp [bind, Except.bind, pure, Except.pure, Nat.toDigits_ne_nil]

theorem readGroups_ellipsis (hg : g < 65536) (hb : bytes.length < 16) (hr : rest ≠ [])
    (hhead : rest.head? ≠ some ':') :
    readGroups input (f + 1) (Nat.toDigits 16 g ++ ':' :: ':' :: rest) bytes none =
      readGroups input f rest (bytes ++ [g / 256, g % 256]) (some (bytes.length + 2)) := by
  rcases rest with _ | ⟨x, r⟩
  · exact absurd rfl hr
  · rw [readGroups.eq_2, if_neg (by omega), readHexField_group hg (.inr rfl)]
    simp [bind, Except.bind, Nat.toDigits_ne_nil]

/-- Groups written out are read back as their bytes. -/
theorem readGroups_hexGroups {hs : List Nat} (hne : hs ≠ []) (hg : ∀ g ∈ hs, g < 65536)
    (hb : bytes.length + 2 * hs.length ≤ 16) (hf : hs.length ≤ f) :
    readGroups input f (hexGroups hs).toList bytes ell = .ok ([], bytes ++ groupBytes hs, ell) := by
  induction hs generalizing f bytes with
  | nil => exact absurd rfl hne
  | cons g t ih =>
    simp only [List.length_cons] at hb hf
    obtain ⟨f, rfl⟩ : ∃ f', f = f' + 1 := ⟨f - 1, by omega⟩
    rcases t with _ | ⟨h, t⟩
    · rw [hexGroups_singleton, readGroups_last (hg g (by simp)) (by omega)]
      simp
    · obtain ⟨hne', hhead⟩ := hexGroups_head h t
      rw [hexGroups_cons_cons, readGroups_colon (hg g (by simp)) (by omega) hne' hhead,
        ih (by simp) (fun x hx => hg x (List.mem_cons_of_mem _ hx)) (by simp at hb ⊢; omega)
          (by simp at hf ⊢; omega)]
      simp

/-- Groups written out and followed by `::` are read back as their bytes, with the
`::` at the byte position after them. -/
theorem readGroups_hexGroups_ellipsis {hs : List Nat} (hne : hs ≠ []) (hg : ∀ g ∈ hs, g < 65536)
    (hb : bytes.length + 2 * hs.length ≤ 16) (hf : hs.length ≤ f) (hhead : rest.head? ≠ some ':') :
    readGroups input f ((hexGroups hs).toList ++ ':' :: ':' :: rest) bytes none =
      if rest = [] then .ok ([], bytes ++ groupBytes hs, some (bytes.length + 2 * hs.length))
      else readGroups input (f - hs.length) rest (bytes ++ groupBytes hs)
        (some (bytes.length + 2 * hs.length)) := by
  induction hs generalizing f bytes with
  | nil => exact absurd rfl hne
  | cons g t ih =>
    simp only [List.length_cons] at hb hf
    obtain ⟨f, rfl⟩ : ∃ f', f = f' + 1 := ⟨f - 1, by omega⟩
    rcases t with _ | ⟨h, t⟩
    · rw [hexGroups_singleton]
      rcases rest with _ | ⟨x, r⟩
      · rw [readGroups_ellipsis_last (hg g (by simp)) (by omega)]
        simp
      · rw [readGroups_ellipsis (hg g (by simp)) (by omega) (List.cons_ne_nil x r) hhead]
        simp
    · obtain ⟨hne', hhead'⟩ := hexGroups_head h t
      rw [hexGroups_cons_cons, List.append_assoc, List.cons_append,
        readGroups_colon (hg g (by simp)) (by omega) (by simp [hne'])
          (by rwa [List.head?_append_of_ne_nil _ hne']),
        ih (by simp) (fun x hx => hg x (List.mem_cons_of_mem _ hx)) (by simp at hb ⊢; omega)
          (by simp at hf ⊢; omega)]
      simp only [List.append_assoc, List.length_append, List.length_cons, List.length_nil, groupBytes_cons,
        List.cons_append, List.nil_append] at hb hf ⊢
      have hf' : f - (t.length + 1) = f + 1 - (t.length + 1 + 1) := by omega
      have hb' : bytes.length + (0 + 1 + 1) + 2 * (t.length + 1) = bytes.length + 2 * (t.length + 1 + 1) := by
        omega
      rw [hf', hb']

/-- The groups of an IPv4-mapped address after `::ffff:` are its dotted quad. -/
theorem readGroups_dotted (n e : Nat) (hb : bytes.length + 4 ≤ 16) :
    readGroups input (f + 1) (dotted n).toList bytes (some e) = .ok ([], bytes ++ octets n, some e) := by
  -- the first octet is read as a hexadecimal field, and the dot after it starts the quad
  have ho : n / Nat.pow 2 24 % 256 < 256 := Nat.mod_lt _ (by decide)
  obtain ⟨v, hv⟩ : ∃ v, readHexField input (dotted n).toList =
      .ok ((Nat.toDigits 10 (n / Nat.pow 2 24 % 256)).length, v) := by
    rw [dotted_toList]
    exact readHexField_octet ho
  have hdot : ((dotted n).toList.drop (Nat.toDigits 10 (n / Nat.pow 2 24 % 256)).length).head? = some '.' := by
    rw [dotted_toList, List.drop_left]
    rfl
  rw [readGroups.eq_2, if_neg (by omega), hv]
  simp [bind, Except.bind, Nat.toDigits_ne_nil, hdot, readQuad_dotted, show ¬ 16 < bytes.length + 4 by omega]
  rfl

end Groups

/-! ### Zero runs -/

/-- Groups `start` to `start + len` are all zero, and there are at least two of them. -/
def IsZeroRun (gs : List Nat) (start len : Nat) : Prop :=
  2 ≤ len ∧ start + len ≤ gs.length ∧ (gs.drop start).take len = List.replicate len 0

theorem isZeroRun_here {gs r : List Nat} {i : Nat} (hi : gs.drop i = 0 :: r)
    (h2 : 2 ≤ 1 + (r.takeWhile (· = 0)).length) :
    IsZeroRun gs i (1 + (r.takeWhile (· = 0)).length) := by
  have hlen : (gs.drop i).length = 1 + r.length := by rw [hi]; simp; omega
  have hw : (r.takeWhile (· = 0)).length ≤ r.length := (List.takeWhile_prefix _).length_le
  refine ⟨h2, by simp at hlen; omega, ?_⟩
  rw [hi, Nat.add_comm, List.take_succ_cons, ← List.prefix_iff_eq_take.1 (List.takeWhile_prefix _),
    List.replicate_succ]
  congr 1
  rw [List.eq_replicate_iff]
  exact ⟨rfl, fun b hb => by simpa using List.mem_takeWhile_imp hb⟩

/-- Every run the search keeps is a zero run of the groups it searches. -/
theorem zeroRun.go_spec (gs : List Nat) (r : List Nat) (i : Nat) (best : Option (Nat × Nat))
    (hr : gs.drop i = r) (hbest : ∀ s l, best = some (s, l) → IsZeroRun gs s l) :
    ∀ s l, zeroRun.go r i best = some (s, l) → IsZeroRun gs s l := by
  induction r generalizing i best with
  | nil => simpa [zeroRun.go] using hbest
  | cons g r ih =>
    have hr' : gs.drop (i + 1) = r := by rw [← List.drop_drop, hr]; rfl
    rw [zeroRun.go.eq_2]
    split_ifs with hg
    · subst hg
      apply ih (i + 1) _ hr'
      intro s l h
      -- the new best is the old one, or the run starting here
      split at h
      · split_ifs at h with h2
        · cases h
          exact isZeroRun_here hr h2.1
        · exact hbest s l h
      · split_ifs at h with h2
        cases h
        exact isZeroRun_here hr h2
    · exact ih (i + 1) best hr' hbest

theorem zeroRun_spec {gs : List Nat} {start len : Nat} (h : zeroRun gs = some (start, len)) :
    IsZeroRun gs start len :=
  zeroRun.go_spec gs gs 0 none rfl (by simp) start len h

/-- Groups are the groups before a zero run, the run, and the groups after it. -/
theorem IsZeroRun.split {gs : List Nat} {start len : Nat} (h : IsZeroRun gs start len) :
    gs = gs.take start ++ List.replicate len 0 ++ gs.drop (start + len) := by
  rw [List.append_assoc, ← h.2.2, ← List.drop_drop, List.take_append_drop, List.take_append_drop]

/-! ### Bytes -/

theorem foldl_bytes (acc : Nat) (ys : List Nat) :
    ys.foldl (fun acc b => acc * 256 + b) acc = acc * 256 ^ ys.length + ofBytes ys := by
  induction ys generalizing acc with
  | nil => simp [ofBytes]
  | cons y ys ih =>
    show ys.foldl _ (acc * 256 + y) = acc * 256 ^ (ys.length + 1) + ys.foldl _ (0 * 256 + y)
    rw [ih (acc * 256 + y), ih (0 * 256 + y)]
    ring

theorem ofBytes_append (xs ys : List Nat) :
    ofBytes (xs ++ ys) = ofBytes xs * 256 ^ ys.length + ofBytes ys := by
  rw [ofBytes, List.foldl_append, foldl_bytes]
  rfl

@[simp] theorem ofBytes_replicate_zero (l : Nat) : ofBytes (List.replicate l 0) = 0 := by
  induction l with
  | zero => rfl
  | succ l ih => rw [List.replicate_succ', ofBytes_append, ih]; rfl

theorem ofBytes_octets {n : Nat} (hn : n < 2 ^ 32) : ofBytes (octets n) = n := by
  simp [ofBytes, octets, Nat.pow]
  omega

theorem foldl_groupBytes (acc : Nat) {gs : List Nat} (hg : ∀ g ∈ gs, g < 65536) :
    (groupBytes gs).foldl (fun acc b => acc * 256 + b) acc = gs.foldl (fun acc g => acc * 65536 + g) acc := by
  induction gs generalizing acc with
  | nil => simp
  | cons g gs ih =>
    have h : (acc * 256 + g / 256) * 256 + g % 256 = acc * 65536 + g := by omega
    simp only [groupBytes_cons, List.foldl_cons, h]
    exact ih _ (fun x hx => hg x (List.mem_cons_of_mem _ hx))

theorem groups_lt (n : Nat) : ∀ g ∈ groups n, g < 65536 := by
  simp only [groups, List.mem_map]
  rintro _ ⟨i, -, rfl⟩
  exact Nat.mod_lt _ (by decide)

@[simp] theorem length_groups (n : Nat) : (groups n).length = 8 := by
  simp [groups]

theorem ofBytes_groupBytes_groups {n : Nat} (hn : n < 2 ^ 128) : ofBytes (groupBytes (groups n)) = n := by
  rw [ofBytes, foldl_groupBytes 0 (groups_lt n)]
  simp [groups, List.range_succ, Nat.pow]
  omega

/-! ### IPv6 texts -/

theorem splitZone_append {s : List Char} (hs : '%' ∉ s) (z : String) :
    splitZone (s ++ (if z = "" then "" else "%" ++ z).toList) = (s, if z = "" then none else some z) := by
  have hp : ∀ c ∈ s, decide (c ≠ '%') = true := by
    intro c hc
    have : c ≠ '%' := fun h => hs (h ▸ hc)
    simpa using this
  rw [splitZone, List.span_eq_takeWhile_dropWhile, List.takeWhile_append_of_pos hp,
    List.dropWhile_append_of_pos hp]
  by_cases hz : z = ""
  · simp [hz]
  · simp [hz]

theorem zone_ne_some_empty (z : String) : (if z = "" then none else some z) ≠ some "" := by
  split_ifs with h <;> simp [h]

theorem zone_getD (z : String) : (if z = "" then none else some z).getD "" = z := by
  split_ifs with h <;> simp [h]

section V6

variable {input : String} {z : String} {bytes : List Nat}

/-- The text `::` is the unspecified address. -/
theorem readV6_unspecified (hin : input.toList = [':', ':'] ++ (if z = "" then "" else "%" ++ z).toList) :
    readV6 input = .ok (.v6 0 z) := by
  simp only [readV6]
  rw [hin, splitZone_append (by decide)]
  simp only [if_neg (zone_ne_some_empty z), zone_getD]
  simp [pure, Except.pure]

/-- A text that starts with `::` has its groups at the end. -/
theorem readV6_leading {r : List Char} (hin : input.toList = ':' :: ':' :: r ++ (if z = "" then "" else "%" ++ z).toList)
    (hr : '%' ∉ r) (hne : r ≠ []) (hg : readGroups input 20 r [] (some 0) = .ok ([], bytes, some 0))
    (hlen : bytes.length < 16) :
    readV6 input = .ok (.v6 (BitVec.ofNat 128 (ofBytes (List.replicate (16 - bytes.length) 0 ++ bytes))) z) := by
  have hs : '%' ∉ ':' :: ':' :: r := by simp [hr]
  simp only [readV6]
  rw [hin, splitZone_append hs]
  simp only [if_neg (zone_ne_some_empty z), zone_getD]
  simp [hg, hne, hlen, bind, Except.bind, pure, Except.pure]

/-- A text that starts with a group and holds `::` has the zero bytes where the `::` is. -/
theorem readV6_inner {c : Char} {t : List Char} {e : Nat}
    (hin : input.toList = c :: t ++ (if z = "" then "" else "%" ++ z).toList) (hc : c ≠ ':')
    (ht : '%' ∉ c :: t) (hg : readGroups input 20 (c :: t) [] none = .ok ([], bytes, some e))
    (hlen : bytes.length < 16) :
    readV6 input = .ok (.v6 (BitVec.ofNat 128
      (ofBytes (bytes.take e ++ List.replicate (16 - bytes.length) 0 ++ bytes.drop e))) z) := by
  simp only [readV6]
  rw [hin, splitZone_append ht]
  simp only [if_neg (zone_ne_some_empty z), zone_getD]
  split
  · next h => cases h; exact absurd rfl hc
  · simp [hg, hlen, bind, Except.bind, pure, Except.pure]

/-- A text of eight groups is read as their bytes. -/
theorem readV6_full {c : Char} {t : List Char}
    (hin : input.toList = c :: t ++ (if z = "" then "" else "%" ++ z).toList) (hc : c ≠ ':')
    (ht : '%' ∉ c :: t) (hg : readGroups input 20 (c :: t) [] none = .ok ([], bytes, none))
    (hlen : bytes.length = 16) :
    readV6 input = .ok (.v6 (BitVec.ofNat 128 (ofBytes bytes)) z) := by
  simp only [readV6]
  rw [hin, splitZone_append ht]
  simp only [if_neg (zone_ne_some_empty z), zone_getD]
  split
  · next h => cases h; exact absurd rfl hc
  · simp [hg, hlen, bind, Except.bind, pure, Except.pure]

end V6

/-! ### Reading back -/

/-- The first separator of a text after digits is the one that decides its family. -/
theorem find?_separator {pre r : List Char} {c : Char} (hpre : ∀ x ∈ pre, x ≠ ':' ∧ x ≠ '.' ∧ x ≠ '%')
    (hc : c = '.' ∨ c = ':' ∨ c = '%') :
    (pre ++ c :: r).find? (fun x => decide (x = '.' ∨ x = ':' ∨ x = '%')) = some c := by
  rw [List.find?_append, List.find?_eq_none.2 fun x hx => by simp [(hpre x hx).1, (hpre x hx).2.1, (hpre x hx).2.2]]
  simp [hc]

theorem digits_not_separator {g : Nat} : ∀ x ∈ Nat.toDigits 16 g, x ≠ ':' ∧ x ≠ '.' ∧ x ≠ '%' :=
  fun _ hx => not_separator_of_mem_toDigits (by decide) le_rfl hx

/-- A text with a colon before any dot or percent sign is read as an IPv6 address. -/
theorem parse_of_colon {input : String} {pre r : List Char} (hin : input.toList = pre ++ ':' :: r)
    (hpre : ∀ x ∈ pre, x ≠ ':' ∧ x ≠ '.' ∧ x ≠ '%') : parse input = readV6 input := by
  simp only [parse, hin, find?_separator hpre (.inr (.inl rfl))]

/-- The canonical text of an IPv4 address reads back as that address. -/
theorem parse_render_v4 (b : BitVec 32) : parse (render (.v4 b)) = .ok (.v4 b) := by
  have hfind : (render (.v4 b)).toList.find? (fun x => decide (x = '.' ∨ x = ':' ∨ x = '%')) = some '.' := by
    rw [render, dotted_toList]
    exact find?_separator (fun x hx => not_separator_of_mem_toDigits (by decide) (by decide) hx) (.inl rfl)
  simp only [parse, hfind]
  rw [render, readQuad_dotted]
  simp [pure, Except.pure, bind, Except.bind, ofBytes_octets b.isLt]

/-- A dotted quad starts with a digit and holds no percent sign. -/
theorem dotted_head (n : Nat) :
    (dotted n).toList ≠ [] ∧ (dotted n).toList.head? ≠ some ':' ∧ '%' ∉ (dotted n).toList := by
  have hnum : ∀ {o : Nat} {x : Char}, x ∈ Nat.toDigits 10 o → x ≠ ':' ∧ x ≠ '.' ∧ x ≠ '%' :=
    fun hx => not_separator_of_mem_toDigits (by decide) (by decide) hx
  rw [dotted_toList, List.head?_append_of_ne_nil _ Nat.toDigits_ne_nil]
  refine ⟨by simp [Nat.toDigits_ne_nil], fun h => (hnum (List.mem_of_head? h)).1 rfl, fun h => ?_⟩
  simp only [List.mem_append, List.mem_cons] at h
  rcases h with h | h | h | h | h | h | h
  all_goals first | cases h | exact (hnum h).2.2 rfl

section V6Text

variable (b : BitVec 128) (z : String)

theorem ofNat_ofBytes {bs : List Nat} (h : ofBytes bs = b.toNat) : BitVec.ofNat 128 (ofBytes bs) = b := by
  rw [h]
  simp

/-- An IPv4-mapped address is written `::ffff:` and its dotted quad. -/
theorem parse_render_mapped (h4 : b.toNat / Nat.pow 2 32 = 0xffff) : parse (render (.v6 b z)) = .ok (.v6 b z) := by
  have hffff : Nat.toDigits 16 65535 = ['f', 'f', 'f', 'f'] := by decide
  have htext : (render (.v6 b z)).toList = ':' :: ':' ::
      (Nat.toDigits 16 65535 ++ ':' :: (dotted (b.toNat % Nat.pow 2 32)).toList) ++
        (if z = "" then "" else "%" ++ z).toList := by
    simp only [render, h4, if_true, String.toList_append, hffff]
    rfl
  obtain ⟨hne, hhead, hpct⟩ := dotted_head (b.toNat % Nat.pow 2 32)
  have hgroups : readGroups (render (.v6 b z)) 20
      (Nat.toDigits 16 65535 ++ ':' :: (dotted (b.toNat % Nat.pow 2 32)).toList) [] (some 0) =
        .ok ([], [255, 255] ++ octets (b.toNat % Nat.pow 2 32), some 0) := by
    rw [readGroups_colon (by decide) (by decide) hne hhead, readGroups_dotted _ 0 (by simp)]
    rfl
  -- the number is `ffff` above the 32 bits of the dotted quad
  have hbits : ofBytes (List.replicate (16 - ([255, 255] ++ octets (b.toNat % Nat.pow 2 32)).length) 0 ++
      ([255, 255] ++ octets (b.toNat % Nat.pow 2 32))) = b.toNat := by
    have hm : b.toNat % Nat.pow 2 32 < 2 ^ 32 := Nat.mod_lt _ (by decide)
    have hb := Nat.div_add_mod b.toNat (Nat.pow 2 32)
    rw [ofBytes_append, ofBytes_append, ofBytes_octets hm]
    simp only [ofBytes_replicate_zero, h4, Nat.pow_eq] at hb ⊢
    simp [octets, ofBytes]
    omega
  rw [parse_of_colon (htext.trans (List.nil_append _).symm) (by simp),
    readV6_leading htext (by simp [hffff, hpct]) (by simp) hgroups (by simp [octets]), ofNat_ofBytes b hbits]

/-- The canonical text of an address that is not IPv4-mapped, with a zero run. -/
theorem render_run_toList (h4 : ¬ b.toNat / Nat.pow 2 32 = 0xffff) {start len : Nat}
    (hz : zeroRun (groups b.toNat) = some (start, len)) :
    (render (.v6 b z)).toList = (hexGroups ((groups b.toNat).take start)).toList ++ ':' :: ':' ::
      (hexGroups ((groups b.toNat).drop (start + len))).toList ++ (if z = "" then "" else "%" ++ z).toList := by
  simp only [render, h4, if_false, hz, String.toList_append]
  simp

theorem ofBytes_groupBytes_toNat : ofBytes (groupBytes (groups b.toNat)) = b.toNat :=
  ofBytes_groupBytes_groups b.isLt

/-- Eight groups without a zero run are written out in full. -/
theorem parse_render_groups (h4 : ¬ b.toNat / Nat.pow 2 32 = 0xffff)
    (hz : zeroRun (groups b.toNat) = none) : parse (render (.v6 b z)) = .ok (.v6 b z) := by
  have htext : (render (.v6 b z)).toList =
      (hexGroups (groups b.toNat)).toList ++ (if z = "" then "" else "%" ++ z).toList := by
    simp only [render, h4, if_false, hz, String.toList_append]
  obtain ⟨g₀, g₁, t, hgs⟩ : ∃ g₀ g₁ t, groups b.toNat = g₀ :: g₁ :: t := by
    have h8 := length_groups b.toNat
    rcases hg : groups b.toNat with _ | ⟨g₀, _ | ⟨g₁, t⟩⟩
    all_goals rw [hg] at h8
    · cases h8
    · cases h8
    · exact ⟨g₀, g₁, t, rfl⟩
  have hgroups : readGroups (render (.v6 b z)) 20 (hexGroups (groups b.toNat)).toList [] none =
      .ok ([], [] ++ groupBytes (groups b.toNat), none) :=
    readGroups_hexGroups (by simp [hgs]) (groups_lt _) (by simp) (by simp)
  obtain ⟨hne, hhead⟩ := hexGroups_head g₀ (g₁ :: t)
  obtain ⟨c, cs, hcs⟩ := List.exists_cons_of_ne_nil hne
  have hc : c ≠ ':' := by simpa [hcs] using hhead
  have hpre : (hexGroups (groups b.toNat)).toList ++ (if z = "" then "" else "%" ++ z).toList =
      Nat.toDigits 16 g₀ ++ ':' :: ((hexGroups (g₁ :: t)).toList ++ (if z = "" then "" else "%" ++ z).toList) := by
    rw [hgs, hexGroups_cons_cons, List.append_assoc]
    rfl
  rw [parse_of_colon (htext.trans hpre) digits_not_separator]
  rw [hgs, hcs] at htext hgroups
  rw [readV6_full htext hc (hcs ▸ percent_not_mem_hexGroups _) hgroups (by rw [← hgs]; simp),
    List.nil_append, ← hgs, ofNat_ofBytes b (ofBytes_groupBytes_toNat b)]

/-- Groups that start with a zero run are written `::` and the groups after the run. -/
theorem parse_render_leading (h4 : ¬ b.toNat / Nat.pow 2 32 = 0xffff) {len : Nat}
    (hz : zeroRun (groups b.toNat) = some (0, len)) : parse (render (.v6 b z)) = .ok (.v6 b z) := by
  have hrun := zeroRun_spec hz
  have hsplit := hrun.split
  have htext := render_run_toList b z h4 hz
  simp only [List.take_zero, Nat.zero_add, hexGroups_nil, List.nil_append] at htext hsplit
  rw [parse_of_colon (htext.trans (List.nil_append _).symm) (by simp)]
  rcases hrest : (groups b.toNat).drop len with _ | ⟨h, t⟩
  · -- the run is all eight groups: the address is `::`
    have hzero : b.toNat = 0 := by
      rw [← ofBytes_groupBytes_toNat b, hsplit, hrest]
      simp [groupBytes_replicate_zero]
    rw [hrest, hexGroups_nil] at htext
    rw [readV6_unspecified htext]
    congr
    exact BitVec.eq_of_toNat_eq (by simp [hzero])
  · have hlen : ((groups b.toNat).drop len).length = 8 - len := by simp
    have hgroups : readGroups (render (.v6 b z)) 20 (hexGroups ((groups b.toNat).drop len)).toList [] (some 0) =
        .ok ([], [] ++ groupBytes ((groups b.toNat).drop len), some 0) :=
      readGroups_hexGroups (by simp [hrest]) (fun g hg => groups_lt _ g (List.mem_of_mem_drop hg))
        (by simp [hlen]; omega) (by simp [hlen]; omega)
    have h2 := hrun.1
    have hle : len ≤ 8 := by simpa using hrun.2.1
    rw [readV6_leading htext (percent_not_mem_hexGroups _) (by rw [hrest]; exact (hexGroups_head h t).1)
      hgroups (by simp [hlen]; omega)]
    congr
    apply ofNat_ofBytes
    calc _ = ofBytes (groupBytes (List.replicate len 0 ++ (groups b.toNat).drop len)) := by
          simp only [List.nil_append, groupBytes_append, groupBytes_replicate_zero, length_groupBytes, hlen]
          congr 3
          omega
      _ = b.toNat := by rw [← hsplit, ofBytes_groupBytes_toNat]

/-- Groups with a zero run after the first group are written with `::` in its place. -/
theorem parse_render_inner (h4 : ¬ b.toNat / Nat.pow 2 32 = 0xffff) {start len : Nat}
    (hz : zeroRun (groups b.toNat) = some (start, len)) (hs : 0 < start) :
    parse (render (.v6 b z)) = .ok (.v6 b z) := by
  have hrun := zeroRun_spec hz
  have hle : start + len ≤ 8 := by simpa using hrun.2.1
  have hpre_len : ((groups b.toNat).take start).length = start := by simp; omega
  have hpost_len : ((groups b.toNat).drop (start + len)).length = 8 - (start + len) := by simp
  -- the groups before the run, the run, and the groups after it
  have hgroups : readGroups (render (.v6 b z)) 20
      ((hexGroups ((groups b.toNat).take start)).toList ++ ':' :: ':' ::
        (hexGroups ((groups b.toNat).drop (start + len))).toList) [] none =
      .ok ([], groupBytes ((groups b.toNat).take start) ++ groupBytes ((groups b.toNat).drop (start + len)),
        some (2 * start)) := by
    have hne : (groups b.toNat).take start ≠ [] := List.ne_nil_of_length_pos (by omega)
    have hlt : ∀ g ∈ (groups b.toNat).take start, g < 65536 :=
      fun g hg => groups_lt _ g (List.mem_of_mem_take hg)
    rcases hpost : (groups b.toNat).drop (start + len) with _ | ⟨h, t⟩
    · rw [readGroups_hexGroups_ellipsis hne hlt (by simp [hpre_len]; omega) (by simp [hpre_len]; omega)
        (by simp)]
      simp [hpre_len]
    · rw [hpost] at hpost_len
      have hpost_lt : ∀ g ∈ h :: t, g < 65536 :=
        fun g hg => groups_lt _ g (List.mem_of_mem_drop (hpost ▸ hg))
      rw [readGroups_hexGroups_ellipsis hne hlt (by simp [hpre_len]; omega) (by simp [hpre_len]; omega)
        (hexGroups_head h t).2, if_neg (hexGroups_head h t).1,
        readGroups_hexGroups (List.cons_ne_nil h t) hpost_lt (by simp [hpre_len] at hpost_len ⊢; omega)
          (by simp [hpre_len] at hpost_len ⊢; omega)]
      simp [hpre_len]
  have hpct : '%' ∉ (hexGroups ((groups b.toNat).take start)).toList ++ ':' :: ':' ::
      (hexGroups ((groups b.toNat).drop (start + len))).toList := by
    simp [percent_not_mem_hexGroups]
  -- the text starts with the numeral of the first group and a colon after it
  obtain ⟨g₀, t₀, hpre⟩ := List.exists_cons_of_ne_nil (List.ne_nil_of_length_pos (hpre_len ▸ hs))
  obtain ⟨r, hr⟩ := hexGroups_cons_colon g₀ t₀
    (':' :: (hexGroups ((groups b.toNat).drop (start + len))).toList)
  obtain ⟨c, ds, hds⟩ := List.exists_cons_of_ne_nil (@Nat.toDigits_ne_nil g₀ 16)
  have hbody : (hexGroups ((groups b.toNat).take start)).toList ++ ':' :: ':' ::
      (hexGroups ((groups b.toNat).drop (start + len))).toList = c :: (ds ++ ':' :: r) := by
    rw [hpre, hr, hds]
    rfl
  have hin := render_run_toList b z h4 hz
  rw [hbody] at hin hgroups hpct
  have hc : c ≠ ':' := (digits_not_separator c (hds ▸ List.mem_cons_self)).1
  have hin' : (render (.v6 b z)).toList = (c :: ds) ++ ':' :: (r ++ (if z = "" then "" else "%" ++ z).toList) := by
    rw [hin]
    simp
  have h2 := hrun.1
  rw [parse_of_colon hin' (hds ▸ digits_not_separator),
    readV6_inner hin hc hpct hgroups (by simp [hpre_len, hpost_len]; omega)]
  congr
  apply ofNat_ofBytes
  have hl : (groupBytes ((groups b.toNat).take start)).length = 2 * start := by simp [hpre_len]
  rw [List.take_left' hl, List.drop_left' hl]
  calc _ = ofBytes (groupBytes ((groups b.toNat).take start ++ List.replicate len 0 ++
          (groups b.toNat).drop (start + len))) := by
        simp only [groupBytes_append, groupBytes_replicate_zero, List.length_append, length_groupBytes,
          hpre_len, hpost_len, List.append_assoc]
        congr 4
        omega
    _ = b.toNat := by rw [← hrun.split, ofBytes_groupBytes_toNat]

end V6Text

/-- The canonical text of every address reads back as that address. -/
theorem parse_render (a : Addr) : parse a.render = .ok a := by
  cases a with
  | v4 b => exact parse_render_v4 b
  | v6 b z =>
    by_cases h4 : b.toNat / Nat.pow 2 32 = 0xffff
    · exact parse_render_mapped b z h4
    rcases hz : zeroRun (groups b.toNat) with _ | ⟨start, len⟩
    · exact parse_render_groups b z h4 hz
    rcases Nat.eq_zero_or_pos start with rfl | hs
    · exact parse_render_leading b z h4 hz
    · exact parse_render_inner b z h4 hz hs

/-- Different addresses have different canonical texts. -/
theorem render_injective : Function.Injective render := by
  intro a a' h
  have ha := parse_render a
  rw [h, parse_render a'] at ha
  exact (Except.ok.inj ha).symm

end NetFleet.Net.Addr
