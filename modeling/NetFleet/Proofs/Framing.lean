import NetFleet.Text.Cut
import NetFleet.Text.Case

/-!
# Cutting a framed text

`Text.cut` splits a text at the first occurrence of a separator. A text framed
by a marker, `a ++ sep ++ b`, is cut at that marker exactly when no occurrence
of `sep` starts inside `a`, that is when `sep` does not occur in `a` followed
by all of `sep` but its last character (`cutChars_frame`). Two ways to know
it from `a` alone: the last character of `sep` stands nowhere else in it
(`not_infix_of_last`), or `a` ends with a character that `sep` lacks
(`not_infix_of_stop`).

`Text.trim` drops white space at both ends: blanks after a text go with the
rest (`trim_append_blank`), and the characters it keeps are the text's own.
-/

namespace NetFleet.Text

/-! ### Cutting at a marker -/

theorem afterPrefix_append (sep rest : List Char) : afterPrefix sep (sep ++ rest) = some rest := by
  induction sep with
  | nil => rfl
  | cons c sep ih => simp [afterPrefix, ih]

theorem eq_append_of_afterPrefix {sep cs rest : List Char} (h : afterPrefix sep cs = some rest) :
    cs = sep ++ rest := by
  induction sep generalizing cs with
  | nil => simpa [afterPrefix] using h
  | cons p sep ih =>
    cases cs with
    | nil => simp [afterPrefix] at h
    | cons c cs =>
      simp only [afterPrefix] at h
      split at h
      · next hpc => rw [hpc, ih h, List.cons_append]
      · simp at h

/-- The first occurrence of `sep` in `a ++ sep ++ b` is the one after `a` when
none starts inside `a`. -/
theorem cutChars_frame {sep a b : List Char} (hsep : sep ≠ []) (h : ¬ sep <:+: a ++ sep.dropLast) :
    cutChars sep (a ++ sep ++ b) = some (a, b) := by
  induction a with
  | nil =>
    obtain ⟨s, ss, rfl⟩ := List.exists_cons_of_ne_nil hsep
    have hat : afterPrefix (s :: ss) (s :: (ss ++ b)) = some b := afterPrefix_append (s :: ss) b
    simp [cutChars, hat]
  | cons c a ih =>
    have htail : ¬ sep <:+: a ++ sep.dropLast :=
      fun hi => h (hi.trans (List.infix_cons (List.infix_refl _)))
    rw [List.cons_append, List.cons_append, cutChars]
    split
    · next rest hrest =>
      -- an occurrence at `c` would lie within `c :: a ++ sep.dropLast`
      exfalso
      apply h
      have hsep_at : sep <+: c :: (a ++ sep ++ b) :=
        ⟨rest, (eq_append_of_afterPrefix hrest).symm⟩
      have hframe : c :: a ++ sep.dropLast <+: c :: (a ++ sep ++ b) :=
        ((List.prefix_append_right_inj (c :: a)).2 (List.dropLast_prefix sep)).trans
          (List.prefix_append _ _)
      have hlen : sep.length ≤ (c :: a ++ sep.dropLast).length := by
        simp only [List.length_append, List.length_cons, List.length_dropLast]
        omega
      exact (List.prefix_of_prefix_length_le hsep_at hframe hlen).isInfix
    · rw [ih htail]
      rfl

theorem getLast?_of_append_eq {t l m : List Char} (hl : l ≠ []) (h : t ++ l = m) :
    l.getLast? = m.getLast? := by
  rw [← h, List.getLast?_append, List.getLast?_eq_some_getLast hl]
  rfl

/-- A nonempty end of `d ++ [x]` holds `x`. -/
theorem mem_of_suffix_concat {l d : List Char} {x : Char} (hl : l ≠ []) (h : l <:+ d ++ [x]) :
    x ∈ l := by
  obtain ⟨t, ht⟩ := h
  have hlast : l.getLast? = some x := by
    rw [getLast?_of_append_eq hl ht, List.getLast?_concat]
  exact List.mem_of_getLast? hlast

/-- A marker whose last character stands nowhere else in it does not start
inside `a` when it does not occur in `a`. -/
theorem not_infix_of_last {sep' a : List Char} {x : Char} (hx : x ∉ sep')
    (h : ¬ sep' ++ [x] <:+: a) : ¬ sep' ++ [x] <:+: a ++ (sep' ++ [x]).dropLast := by
  rw [List.dropLast_concat]
  intro hi
  rcases List.infix_append_iff_ne_nil.1 hi with ha | hs | ⟨l₁, l₂, -, hl₂, heq, -, hp⟩
  · exact h ha
  · have := hs.length_le
    simp only [List.length_append, List.length_cons, List.length_nil] at this
    omega
  · -- the occurrence would end inside `sep'`, which lacks `x`
    have hlast : l₂.getLast? = some x := by
      rw [getLast?_of_append_eq hl₂ heq.symm, List.getLast?_concat]
    exact hx (hp.subset (List.mem_of_getLast? hlast))

/-- A marker without `x` does not start inside `d ++ [x]` when it does not
occur in `d`. -/
theorem not_infix_of_stop {sep d : List Char} {x : Char} (hx : x ∉ sep) (h : ¬ sep <:+: d) :
    ¬ sep <:+: d ++ [x] ++ sep.dropLast := by
  have hsep : sep ≠ [] := by
    rintro rfl
    exact h List.nil_infix
  intro hi
  rcases List.infix_append_iff_ne_nil.1 hi with ha | hs | ⟨l₁, l₂, hl₁, -, heq, hs, -⟩
  · rcases List.infix_concat_iff.1 ha with hsuf | hd
    · exact hx (mem_of_suffix_concat hsep hsuf)
    · exact h hd
  · have := hs.length_le
    simp only [List.length_dropLast] at this
    have : 0 < sep.length := List.length_pos_iff.2 hsep
    omega
  · exact hx (heq ▸ List.mem_append_left l₂ (mem_of_suffix_concat hl₁ hs))

/-! ### Trimming -/

/-- Characters without their trailing white space. -/
def trimEnd (l : List Char) : List Char := (l.reverse.dropWhile isSpace).reverse

theorem toList_trim (s : String) : (trim s).toList = trimEnd (s.toList.dropWhile isSpace) := by
  simp [trim, trimEnd]

theorem isSpace_of_mem_takeWhile {c : Char} {l : List Char} (h : c ∈ l.takeWhile isSpace) :
    isSpace c = true :=
  List.all_eq_true.1 List.all_takeWhile c h

/-- What `trimEnd` drops is the white space at the end. -/
theorem trimEnd_append_trailing (l : List Char) :
    trimEnd l ++ (l.reverse.takeWhile isSpace).reverse = l := by
  rw [trimEnd, ← List.reverse_append, List.takeWhile_append_dropWhile, List.reverse_reverse]

theorem trimEnd_prefix_self (l : List Char) : trimEnd l <+: l := ⟨_, trimEnd_append_trailing l⟩

/-- Characters that are not all white space keep one after the leading white
space goes. -/
theorem dropWhile_ne_nil {l : List Char} (h : ∃ c ∈ l, isSpace c = false) : l.dropWhile isSpace ≠ [] := by
  intro hnil
  obtain ⟨c, hc, hsp⟩ := h
  have hsplit := List.takeWhile_append_dropWhile (p := isSpace) (l := l)
  rw [hnil, List.append_nil] at hsplit
  rw [← hsplit] at hc
  simp [isSpace_of_mem_takeWhile hc] at hsp

theorem trimEnd_ne_nil {l : List Char} (h : ∃ c ∈ l, isSpace c = false) : trimEnd l ≠ [] := by
  rw [trimEnd, Ne, List.reverse_eq_nil_iff]
  exact dropWhile_ne_nil (by simpa using h)

/-- Characters before a text that is not all white space stay when the end is
trimmed. -/
theorem trimEnd_append {a r : List Char} (h : ∃ c ∈ r, isSpace c = false) :
    trimEnd (a ++ r) = a ++ trimEnd r := by
  have hne : (r.reverse.dropWhile isSpace).isEmpty = false := by
    rw [List.isEmpty_eq_false_iff, Ne, ← List.reverse_eq_nil_iff]
    exact trimEnd_ne_nil h
  rw [trimEnd, List.reverse_append, List.dropWhile_append, hne]
  simp [trimEnd]

/-- Characters that end with a character other than white space begin the
trimmed text they begin. -/
theorem prefix_trimEnd {a r : List Char} {y : Char} (ha : a.getLast? = some y) (hy : isSpace y = false) :
    a <+: trimEnd (a ++ r) := by
  obtain ⟨b, rfl⟩ := List.getLast?_eq_some_iff.1 ha
  rw [trimEnd, List.reverse_append, List.dropWhile_append]
  split
  · simp [hy]
  · simp only [List.reverse_append, List.reverse_reverse]
    exact List.prefix_append _ _

/-- Blanks after a text are trimmed with the rest. -/
theorem trim_append_blank (d t : String) (ht : ∀ c ∈ t.toList, isSpace c) : trim (d ++ t) = trim d := by
  rw [← String.toList_inj, toList_trim, toList_trim, String.toList_append, List.dropWhile_append]
  split
  · next hd =>
    have ht' : t.toList.dropWhile isSpace = [] := by
      simpa using (List.dropWhile_append_of_pos ht : (t.toList ++ ([] : List Char)).dropWhile isSpace = _)
    rw [List.isEmpty_iff.1 hd, ht']
  · rw [trimEnd, trimEnd, List.reverse_append, List.dropWhile_append_of_pos (by simpa using ht)]

theorem mem_of_mem_trim {c : Char} {s : String} (h : c ∈ (trim s).toList) : c ∈ s.toList := by
  rw [toList_trim] at h
  exact (List.dropWhile_sublist _).subset ((trimEnd_prefix_self _).subset h)

end NetFleet.Text
