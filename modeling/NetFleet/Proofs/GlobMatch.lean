import NetFleet.Text.Glob

/-!
# What a pattern ending in `.*` can tell apart

The audit log finds its backups again by the names that its path followed by `.*`
matches as a shell pattern, and it names a backup by the path, a dot and a stamp.
This module proves what that needs of `matchName`:

* a pattern ending in `.*` gives the same verdict on two names that differ only in
  a tail with no dot, star or separator in it (`matchName_dotStar_tail`), so it
  lists all the backups of a log or none of them (`glob_dotStar_all_or_none`);
* where the path has no character special to a pattern, it lists them all, sorted
  (`glob_literal`);
* a name is refused exactly when the pattern is not well formed
  (`matchName_eq_error_iff`).

The argument goes chunk by chunk. A chunk reads a fixed number of characters of
the name, its `width`, and what stands after them goes through unchanged
(`matchChunk_append`). A chunk that reads into the tail would have to find the dot
of `.*` there, so from there on nothing matches (`matchName_dotStar_reads_tail`);
a chunk that stays before the tail does the same on both names, and leaves a
shorter pattern that again ends in `.*` (`DotStarRest`), which carries the
induction.
-/

namespace NetFleet.Text

/-! ### Equations of the chunk matcher -/

theorem matchChunk_nil (s : Option (List Char)) : matchChunk [] s = .ok s := by
  rw [matchChunk]

theorem matchChunk_any (cs : List Char) (s : Option (List Char)) :
    matchChunk ('?' :: cs) s = matchChunk cs (afterAny s) := by
  rw [matchChunk]

theorem matchChunk_escape (c : Char) (cs : List Char) (s : Option (List Char)) :
    matchChunk ('\\' :: c :: cs) s = matchChunk cs (afterChar c s) := by
  rw [matchChunk]

theorem matchChunk_backslash (s : Option (List Char)) : matchChunk ['\\'] s = .error () := by
  rw [matchChunk]

theorem matchChunk_lit {c : Char} (h1 : c ≠ '[') (h2 : c ≠ '?') (h3 : c ≠ '\\') (cs : List Char)
    (s : Option (List Char)) : matchChunk (c :: cs) s = matchChunk cs (afterChar c s) := by
  rw [matchChunk] <;> intros <;> simp_all

theorem matchChunk_class (cs : List Char) (s : Option (List Char)) :
    matchChunk ('[' :: cs) s =
      match classScan (headOr s) false .start (caret cs).2 with
      | none => .error ()
      | some (m, rest) => matchChunk rest (if m == (caret cs).1 then none else afterHead s) := by
  rw [matchChunk]
  split <;> simp_all

@[simp] theorem afterChar_eq_some {c : Char} {s : Option (List Char)} {t : List Char} :
    afterChar c s = some t ↔ s = some (c :: t) := by
  rcases s with _ | _ | ⟨d, n⟩ <;> simp only [afterChar] <;> try simp
  exact fun _ => eq_comm

@[simp] theorem afterAny_eq_some {s : Option (List Char)} {t : List Char} :
    afterAny s = some t ↔ ∃ c, s = some (c :: t) ∧ c ≠ '/' := by
  rcases s with _ | _ | ⟨c, n⟩ <;> simp only [afterAny] <;> try simp
  grind

@[simp] theorem afterHead_eq_some {s : Option (List Char)} {t : List Char} :
    afterHead s = some t ↔ ∃ c, s = some (c :: t) := by
  unfold afterHead
  split <;> simp_all

/-- How a class reads the chunk does not depend on the character it tests. -/
theorem classScan_rest (r r' : Char) (m m' : Bool) (st : ClassState) (cs : List Char) :
    (classScan r m st cs).map Prod.snd = (classScan r' m' st cs).map Prod.snd := by
  induction cs generalizing st m m' with
  | nil => cases st <;> simp [classScan]
  | cons x xs ih =>
    cases st <;> simp only [classScan] <;> (repeat' split) <;> first | rfl | exact ih _ _ _

theorem classScan_eq_none {r : Char} {m : Bool} {st : ClassState} {cs : List Char}
    (h : classScan r m st cs = none) (r' : Char) (m' : Bool) : classScan r' m' st cs = none := by
  have := classScan_rest r r' m m' st cs
  rw [h] at this
  exact Option.map_eq_none_iff.mp this.symm

theorem classScan_eq_some {r : Char} {m b : Bool} {st : ClassState} {cs rest : List Char}
    (h : classScan r m st cs = some (b, rest)) (r' : Char) (m' : Bool) :
    ∃ b', classScan r' m' st cs = some (b', rest) := by
  have := classScan_rest r r' m m' st cs
  rw [h] at this
  obtain ⟨⟨b', rest'⟩, h', hsnd⟩ := Option.map_eq_some_iff.mp this.symm
  cases hsnd
  exact ⟨b', h'⟩

/-- The number of characters of a name that a chunk reads. -/
def width : List Char → Nat
  | [] => 0
  | '[' :: cs =>
    match h : classScan '\x00' false .start (caret cs).2 with
    | none => 0
    | some (_, rest) =>
      have := classScan_length h
      have := caret_length cs
      width rest + 1
  | '?' :: cs => width cs + 1
  | '\\' :: _ :: cs => width cs + 1
  | ['\\'] => 0
  | _ :: cs => width cs + 1
termination_by chunk => chunk.length
decreasing_by all_goals simp_all <;> omega

theorem width_class {cs rest : List Char} {r : Char} {m m' : Bool}
    (h : classScan r m .start (caret cs).2 = some (m', rest)) : width ('[' :: cs) = width rest + 1 := by
  obtain ⟨b, h'⟩ := classScan_eq_some h '\x00' false
  rw [width]
  split <;> simp_all

theorem width_lit {c : Char} (h1 : c ≠ '[') (h2 : c ≠ '?') (h3 : c ≠ '\\') (cs : List Char) :
    width (c :: cs) = width cs + 1 := by
  rw [width] <;> intros <;> simp_all

/-- The character of a literal step of the matcher is not a backslash. -/
theorem ne_backslash {c : Char} {cs : List Char} (h3 : ∀ d ds, c = '\\' → cs = d :: ds → False)
    (h4 : c = '\\' → cs = [] → False) : c ≠ '\\' := by
  rintro rfl
  cases cs with
  | nil => exact h4 rfl rfl
  | cons d ds => exact h3 d ds rfl rfl

/-- A chunk that matches reads `width chunk` characters of the name, and leaves the rest. -/
theorem matchChunk_eq_some {chunk : List Char} {s : Option (List Char)} {t : List Char}
    (h : matchChunk chunk s = .ok (some t)) :
    ∃ n, s = some n ∧ width chunk ≤ n.length ∧ t = n.drop (width chunk) := by
  fun_induction matchChunk chunk s generalizing t with
  | case1 s => simp_all [width]
  | case2 => simp at h
  | case3 cs s m rest hscan _ _ ih =>
    obtain ⟨n, hn, hw, rfl⟩ := ih h
    split at hn
    · simp at hn
    · obtain ⟨c, rfl⟩ := afterHead_eq_some.mp hn
      simp [width_class hscan, hw]
  | case4 cs s ih =>
    obtain ⟨n, hn, hw, rfl⟩ := ih h
    obtain ⟨c, rfl, -⟩ := afterAny_eq_some.mp hn
    simp [width, hw]
  | case5 c cs s ih =>
    obtain ⟨n, hn, hw, rfl⟩ := ih h
    simp_all [width]
  | case6 => simp at h
  | case7 c cs s h1 h2 h3 h4 ih =>
    obtain ⟨n, hn, hw, rfl⟩ := ih h
    obtain rfl := afterChar_eq_some.mp hn
    simp [width_lit h1 h2 (ne_backslash h3 h4)]
    omega

/-- Whether a chunk is refused depends on the chunk alone, not on the name. -/
theorem matchChunk_error_iff (chunk : List Char) (s s' : Option (List Char)) :
    matchChunk chunk s = .error () ↔ matchChunk chunk s' = .error () := by
  fun_induction matchChunk chunk s generalizing s' with
  | case1 s => simp [matchChunk_nil]
  | case2 cs s hscan =>
    rw [matchChunk_class, classScan_eq_none hscan (headOr s') false]
  | case3 cs s m rest hscan _ _ ih =>
    obtain ⟨b, h'⟩ := classScan_eq_some hscan (headOr s') false
    rw [matchChunk_class, h']
    exact ih _
  | case4 cs s ih => rw [matchChunk_any]; exact ih _
  | case5 c cs s ih => rw [matchChunk_escape]; exact ih _
  | case6 => simp [matchChunk_backslash]
  | case7 c cs s h1 h2 h3 h4 ih => rw [matchChunk_lit h1 h2 (ne_backslash h3 h4)]; exact ih _

section Append

variable {s : Option (List Char)} (y : List Char)

theorem afterChar_map_append (hs : s ≠ some []) (c : Char) :
    afterChar c (s.map (· ++ y)) = (afterChar c s).map (· ++ y) := by
  rcases s with _ | _ | ⟨d, n⟩ <;> simp_all [afterChar]

theorem afterAny_map_append (hs : s ≠ some []) :
    afterAny (s.map (· ++ y)) = (afterAny s).map (· ++ y) := by
  rcases s with _ | _ | ⟨d, n⟩ <;> simp_all [afterAny]
  split <;> simp

theorem afterHead_map_append (hs : s ≠ some []) :
    afterHead (s.map (· ++ y)) = (afterHead s).map (· ++ y) := by
  rcases s with _ | _ | ⟨d, n⟩ <;> simp_all [afterHead]

theorem headOr_map_append (hs : s ≠ some []) : headOr (s.map (· ++ y)) = headOr s := by
  rcases s with _ | _ | ⟨d, n⟩ <;> simp_all [headOr]

theorem ne_nil_of_width {k : Nat} (hs : ∀ n, s = some n → k + 1 ≤ n.length) : s ≠ some [] := by
  rintro rfl
  simpa using hs [] rfl

/-- Where a name is long enough for a chunk, its tail is long enough for the rest of the chunk. -/
theorem tail_width {s' : Option (List Char)} {k : Nat} (hs : ∀ n, s = some n → k + 1 ≤ n.length)
    (h : ∀ n, s' = some n → ∃ c, s = some (c :: n)) : ∀ n, s' = some n → k ≤ n.length := by
  intro n hn
  obtain ⟨c, hc⟩ := h n hn
  simpa using hs _ hc

/-- A chunk reads no further than its width: what stands in the name after that
goes through unchanged. -/
theorem matchChunk_append {chunk : List Char} (hs : ∀ n, s = some n → width chunk ≤ n.length) :
    matchChunk chunk (s.map (· ++ y)) = (matchChunk chunk s).map (Option.map (· ++ y)) := by
  fun_induction matchChunk chunk s with
  | case1 s => simp [matchChunk_nil, Except.map]
  | case2 cs s hscan =>
    rw [matchChunk_class, classScan_eq_none hscan _ false]
    rfl
  | case3 cs s m rest hscan _ _ ih =>
    -- the class reads one character, so the name has one to test
    have hne : s ≠ some [] := by
      rintro rfl
      have := hs [] rfl
      simp [width_class hscan] at this
    rw [matchChunk_class, headOr_map_append y hne, hscan]
    simp only
    have hstate : (if (m == (caret cs).1) = true then none else afterHead (s.map (· ++ y))) =
        (if (m == (caret cs).1) = true then none else afterHead s).map (· ++ y) := by
      split <;> simp [afterHead_map_append y hne]
    rw [hstate]
    apply ih
    intro n hn
    split at hn
    · simp at hn
    · obtain ⟨c, rfl⟩ := afterHead_eq_some.mp hn
      have := hs _ rfl
      simp [width_class hscan] at this
      omega
  | case4 cs s ih =>
    have hs' : ∀ n, s = some n → width cs + 1 ≤ n.length := by simpa [width] using hs
    rw [matchChunk_any, afterAny_map_append y (ne_nil_of_width hs')]
    exact ih (tail_width hs' fun n hn => by obtain ⟨c, h, -⟩ := afterAny_eq_some.mp hn; exact ⟨c, h⟩)
  | case5 c cs s ih =>
    have hs' : ∀ n, s = some n → width cs + 1 ≤ n.length := by simpa [width] using hs
    rw [matchChunk_escape, afterChar_map_append y (ne_nil_of_width hs')]
    exact ih (tail_width hs' fun n hn => ⟨c, afterChar_eq_some.mp hn⟩)
  | case6 => simp [matchChunk_backslash, Except.map]
  | case7 c cs s h1 h2 h3 h4 ih =>
    have hs' : ∀ n, s = some n → width cs + 1 ≤ n.length := by
      simpa [width_lit h1 h2 (ne_backslash h3 h4)] using hs
    rw [matchChunk_lit h1 h2 (ne_backslash h3 h4), afterChar_map_append y (ne_nil_of_width hs')]
    exact ih (tail_width hs' fun n hn => ⟨c, afterChar_eq_some.mp hn⟩)

end Append

/-- A class is not closed where the chunk has no closing bracket. -/
theorem classScan_eq_none_of_close {r : Char} {m : Bool} {st : ClassState} {cs : List Char}
    (hcs : ']' ∉ cs) : classScan r m st cs = none := by
  induction cs generalizing st m with
  | nil => cases st <;> rfl
  | cons x xs ih =>
    have hx : x ≠ ']' := fun h => hcs (h ▸ List.mem_cons_self)
    have hxs : ']' ∉ xs := fun h => hcs (List.mem_cons_of_mem x h)
    cases st <;> simp only [classScan] <;> (repeat' split) <;> first | rfl | exact ih hxs | simp_all

/-- A class read from a chunk whose tail `d` holds no closing bracket ends before `d`. -/
theorem classScan_append {r : Char} {m b : Bool} {st : ClassState} {x d rest : List Char}
    (hd : ']' ∉ d) (h : classScan r m st (x ++ d) = some (b, rest)) :
    ∃ x', rest = x' ++ d ∧ x'.length < x.length := by
  induction x generalizing st m with
  | nil => simp [classScan_eq_none_of_close hd] at h
  | cons a x ih =>
    cases st <;> simp only [classScan, List.cons_append] at h <;> (repeat' split at h) <;>
      first
      | (simp at h; done)
      | (simp only [Option.some.injEq, Prod.mk.injEq] at h; exact ⟨x, h.2.symm, by simp⟩)
      | (obtain ⟨x', rfl, hx'⟩ := ih h; exact ⟨x', rfl, by simp; omega⟩)

theorem caret_append {c : List Char} (hc : c ≠ []) (d : List Char) :
    (caret (c ++ d)).2 = (caret c).2 ++ d := by
  obtain ⟨a, c, rfl⟩ := List.exists_cons_of_ne_nil hc
  by_cases ha : a = '^'
  · subst ha; rfl
  · simp [caret, ha]

theorem mem_of_mem_caret {cs : List Char} {x : Char} (h : x ∈ (caret cs).2) : x ∈ cs := by
  unfold caret at h
  split at h <;> simp_all

/-- A chunk of plain characters, each of which stands for itself. -/
def Plain (d : List Char) : Prop := ∀ c ∈ d, c ≠ '[' ∧ c ≠ '?' ∧ c ≠ '\\'

theorem Plain.tail {a : Char} {d : List Char} (h : Plain (a :: d)) : Plain d :=
  fun c hc => h c (List.mem_cons_of_mem a hc)

/-- A plain chunk matches exactly the names that start with it. -/
theorem matchChunk_plain_eq_some {d : List Char} (hd : Plain d) {s : Option (List Char)}
    {t : List Char} (h : matchChunk d s = .ok (some t)) : s = some (d ++ t) := by
  induction d generalizing s with
  | nil => simpa [matchChunk_nil] using h
  | cons a d ih =>
    obtain ⟨h1, h2, h3⟩ := hd a List.mem_cons_self
    rw [matchChunk_lit h1 h2 h3] at h
    simpa using ih hd.tail h

theorem matchChunk_plain_self {d : List Char} (hd : Plain d) (t : List Char) :
    matchChunk d (some (d ++ t)) = .ok (some t) := by
  induction d with
  | nil => simp [matchChunk_nil]
  | cons a d ih =>
    obtain ⟨h1, h2, h3⟩ := hd a List.mem_cons_self
    rw [List.cons_append, matchChunk_lit h1 h2 h3]
    simpa [afterChar] using ih hd.tail

/-- A chunk that ends in a plain part `d` without a closing bracket matches only where
`d` stands in the name right before what is left of it. -/
theorem matchChunk_append_plain {d : List Char} (hd : Plain d) (hb : ']' ∉ d) (c : List Char)
    {s : Option (List Char)} {t : List Char} (h : matchChunk (c ++ d) s = .ok (some t)) :
    ∃ pre, s = some (pre ++ d ++ t) := by
  induction hn : c.length using Nat.strongRecOn generalizing c s with
  | _ n ih =>
  rcases c with _ | ⟨a, c⟩
  · exact ⟨[], by simpa using matchChunk_plain_eq_some hd h⟩
  rw [List.cons_append] at h
  by_cases h1 : a = '['
  · subst h1
    rw [matchChunk_class] at h
    rcases hcs : classScan (headOr s) false .start (caret (c ++ d)).2 with _ | ⟨m, rest⟩
    · simp [hcs] at h
    simp only [hcs] at h
    -- the class closes inside c, since d has no closing bracket
    have hc : c ≠ [] := by
      rintro rfl
      rw [List.nil_append, classScan_eq_none_of_close fun h' => hb (mem_of_mem_caret h')] at hcs
      simp at hcs
    rw [caret_append hc] at hcs
    obtain ⟨x, rfl, hx⟩ := classScan_append hb hcs
    have hlen : x.length < n := by
      have := caret_length c
      simp at hn
      omega
    obtain ⟨pre, hpre⟩ := ih x.length hlen x h rfl
    split at hpre
    · simp at hpre
    · obtain ⟨b, rfl⟩ := afterHead_eq_some.mp hpre
      exact ⟨b :: pre, rfl⟩
  have hlen : c.length < n := by simp at hn; omega
  by_cases h2 : a = '?'
  · subst h2
    rw [matchChunk_any] at h
    obtain ⟨pre, hpre⟩ := ih c.length hlen c h rfl
    obtain ⟨b, rfl, -⟩ := afterAny_eq_some.mp hpre
    exact ⟨b :: pre, rfl⟩
  by_cases h3 : a = '\\'
  · subst h3
    rcases c with _ | ⟨b, c⟩
    · -- a backslash at the end of c escapes the first character of d
      rcases d with _ | ⟨b, d⟩
      · simp [matchChunk_backslash] at h
      rw [List.nil_append, matchChunk_escape] at h
      have := matchChunk_plain_eq_some hd.tail h
      exact ⟨[], by simpa using this⟩
    · rw [List.cons_append, matchChunk_escape] at h
      obtain ⟨pre, hpre⟩ := ih c.length (by simp at hn; omega) c h rfl
      exact ⟨b :: pre, by simpa using afterChar_eq_some.mp hpre⟩
  rw [matchChunk_lit h1 h2 h3] at h
  obtain ⟨pre, hpre⟩ := ih c.length hlen c h rfl
  exact ⟨a :: pre, by simpa using afterChar_eq_some.mp hpre⟩

/-! ### Chunks of a pattern -/

theorem chunkSpan_append (b : Bool) (p : List Char) : (chunkSpan b p).1 ++ (chunkSpan b p).2 = p := by
  fun_induction chunkSpan b p <;> simp_all

theorem chunkSpan_fst_ne_nil {b : Bool} {c : Char} (hc : c ≠ '*') (cs : List Char) :
    (chunkSpan b (c :: cs)).1 ≠ [] := by
  unfold chunkSpan
  split <;> simp_all

/-- What is left of a pattern `q ++ ".*"` after its next chunk `c`: a shorter pattern that
also ends in `.*`, the last star (`c` ending in the dot), or nothing (`c` ending in `.*`,
the star taken into a class or escaped). -/
inductive DotStarRest (q : List Char) : List Char → List Char → Prop
  | more (c q' : List Char) : q'.length < q.length → DotStarRest q c (q' ++ ['.', '*'])
  | star (c : List Char) : DotStarRest q (c ++ ['.']) ['*']
  | whole (c : List Char) : DotStarRest q (c ++ ['.', '*']) []

theorem dropWhile_dotStar (q : List Char) :
    ∃ x, (q ++ ['.', '*']).dropWhile (· = '*') = x ++ ['.', '*'] ∧ x.length ≤ q.length ∧
      ∀ a x', x = a :: x' → a ≠ '*' := by
  induction q with
  | nil => exact ⟨[], by simp, by simp, by simp⟩
  | cons a q ih =>
    by_cases ha : a = '*'
    · obtain ⟨x, hx, hlen, hhead⟩ := ih
      refine ⟨x, ?_, by simp; omega, hhead⟩
      rw [List.cons_append, List.dropWhile_cons_of_pos (by simpa using ha), hx]
    · refine ⟨a :: q, ?_, Nat.le_refl _, ?_⟩
      · rw [List.cons_append, List.dropWhile_cons_of_neg (by simpa using ha)]
      · rintro b x' ⟨rfl, -⟩
        exact ha

/-- The next chunk of a pattern that ends in `.*` is not empty, and what is left after it
has one of the shapes of `DotStarRest`. -/
theorem scanChunk_dotStar (q : List Char) :
    (scanChunk (q ++ ['.', '*'])).2.1 ≠ [] ∧
      DotStarRest q (scanChunk (q ++ ['.', '*'])).2.1 (scanChunk (q ++ ['.', '*'])).2.2 := by
  obtain ⟨x, hx, hlen, hhead⟩ := dropWhile_dotStar q
  simp only [scanChunk, hx]
  have hne : (chunkSpan false (x ++ ['.', '*'])).1 ≠ [] := by
    rcases x with _ | ⟨a, x⟩
    · exact chunkSpan_fst_ne_nil (by decide) _
    · exact chunkSpan_fst_ne_nil (hhead a x rfl) _
  refine ⟨hne, ?_⟩
  have happ := chunkSpan_append false (x ++ ['.', '*'])
  generalize (chunkSpan false (x ++ ['.', '*'])).1 = c at hne happ
  generalize (chunkSpan false (x ++ ['.', '*'])).2 = r at happ
  rcases List.append_eq_append_iff.mp happ with ⟨a', rfl, rfl⟩ | ⟨c', rfl, hc'⟩
  · -- the chunk stops inside x
    refine .more c a' ?_
    have : c.length ≠ 0 := by simpa using hne
    simp at hlen
    omega
  · -- the chunk takes all of x and some of the dot and star
    rcases c' with _ | ⟨d, _ | ⟨e, _ | ⟨f, c'⟩⟩⟩
    · simp at hc'
      subst hc'
      rw [List.append_nil] at hne ⊢
      refine .more x [] ?_
      have : x.length ≠ 0 := by simpa using hne
      simp
      omega
    · simp at hc'
      obtain ⟨rfl, rfl⟩ := hc'
      exact .star x
    · simp at hc'
      obtain ⟨rfl, rfl, rfl⟩ := hc'
      exact .whole x
    · simp at hc'

/-! ### Refusals -/

/-- A pattern without a chunk after its stars has nothing after them either. -/
theorem scanChunk_rest_nil {p : List Char} (h : (scanChunk p).2.1 = []) : (scanChunk p).2.2 = [] := by
  unfold scanChunk at h ⊢
  rcases hq : p.dropWhile (· = '*') with _ | ⟨a, q⟩
  · rfl
  · have ha : a ≠ '*' := by
      have := List.head_dropWhile_not (fun c => decide (c = '*')) (l := p) (by simp [hq])
      simpa [hq] using this
    rw [hq] at h
    exact absurd h (chunkSpan_fst_ne_nil ha q)

theorem checkRest_chunk_error {p : List Char} (hp : p ≠ []) {s : Option (List Char)}
    (h : matchChunk (scanChunk p).2.1 s = .error ()) : checkRest p = .error () := by
  rw [checkRest, dif_neg hp, (matchChunk_error_iff _ s (some [])).mp h]

theorem checkRest_chunk_ok {p : List Char} (hp : p ≠ []) {s r : Option (List Char)}
    (h : matchChunk (scanChunk p).2.1 s = .ok r) : checkRest p = checkRest (scanChunk p).2.2 := by
  rcases hm : matchChunk (scanChunk p).2.1 (some []) with ⟨⟩ | r'
  · rw [matchChunk_error_iff _ (some []) s, h] at hm
    cases hm
  · rw [checkRest, dif_neg hp, hm]

/-- A chunk after a star is refused only where the chunk is. -/
theorem skipMatch_error {chunk : List Char} {last : Bool} {name : List Char}
    (h : skipMatch chunk last name = .error ()) : matchChunk chunk (some []) = .error () := by
  induction name with
  | nil => simp [skipMatch] at h
  | cons c cs ih =>
    unfold skipMatch at h
    split at h
    · simp at h
    rcases hm : matchChunk chunk (some cs) with ⟨⟩ | _ | t
    · exact (matchChunk_error_iff _ _ _).mp hm
    · simp only [hm] at h
      exact ih h
    · simp only [hm] at h
      split at h
      · exact ih h
      · simp at h

/-- A name is refused exactly when the pattern is not well formed. -/
theorem matchName_eq_error_iff (p name : List Char) :
    matchName p name = .error () ↔ checkRest p = .error () := by
  fun_induction matchName p name with
  | case1 name => simp [checkRest]
  | case2 p name hp _ star chunk hempty =>
    -- a star alone: the pattern ends after it
    have hc : (scanChunk p).2.1 = [] := List.isEmpty_iff.mp (Bool.and_eq_true _ _ ▸ hempty).2
    rw [checkRest_chunk_ok hp (s := some []) (r := some []) (by rw [hc, matchChunk_nil]),
      scanChunk_rest_nil hc]
    simp [checkRest]
  | case3 p name hp _ star chunk _ e hm =>
    simp [checkRest_chunk_error hp hm]
  | case4 p name hp _ star chunk rest _ r hm t _ ih =>
    rw [checkRest_chunk_ok hp hm]
    exact ih
  | case5 p name hp _ star chunk rest _ r hm _ e hskip =>
    cases e
    split at hskip
    · simp [checkRest_chunk_error hp (skipMatch_error hskip)]
    · simp at hskip
  | case6 p name hp _ star chunk rest _ r hm _ t _ ih =>
    rw [checkRest_chunk_ok hp hm]
    exact ih
  | case7 p name hp _ star chunk rest _ r hm _ _ =>
    rw [checkRest_chunk_ok hp hm]
    cases checkRest rest <;> simp [Except.map]

/-! ### Names without a dot -/

/-- A chunk after a star matches at a later position of the name, if anywhere. -/
theorem skipMatch_eq_some {chunk : List Char} {last : Bool} {name t : List Char}
    (h : skipMatch chunk last name = .ok (some t)) :
    ∃ m, m <:+ name.tail ∧ matchChunk chunk (some m) = .ok (some t) := by
  induction name with
  | nil => simp [skipMatch] at h
  | cons c cs ih =>
    unfold skipMatch at h
    split at h
    · simp at h
    rcases hm : matchChunk chunk (some cs) with ⟨⟩ | _ | t'
    · simp [hm] at h
    · simp only [hm] at h
      obtain ⟨m, hsuf, hm'⟩ := ih h
      exact ⟨m, hsuf.trans (List.tail_suffix cs), hm'⟩
    · simp only [hm] at h
      split at h
      · obtain ⟨m, hsuf, hm'⟩ := ih h
        exact ⟨m, hsuf.trans (List.tail_suffix cs), hm'⟩
      · simp only [Except.ok.injEq, Option.some.injEq] at h
        subst h
        exact ⟨cs, List.suffix_refl cs, hm⟩

/-- Where the chunk of a pattern `q ++ ".*"` matches a name without a dot, the dot is
still ahead in the pattern: what is left of it is a shorter pattern ending in `.*`. -/
theorem dotStar_chunk_some {q m t : List Char} (hm : '.' ∉ m)
    (h : matchChunk (scanChunk (q ++ ['.', '*'])).2.1 (some m) = .ok (some t)) :
    ∃ q', (scanChunk (q ++ ['.', '*'])).2.2 = q' ++ ['.', '*'] ∧ q'.length < q.length ∧ '.' ∉ t := by
  have hplain : Plain ['.'] := by simp [Plain]
  have hplain' : Plain ['.', '*'] := by simp [Plain]
  obtain ⟨-, hshape⟩ := scanChunk_dotStar q
  revert h
  generalize (scanChunk (q ++ ['.', '*'])).2.1 = chunk at hshape
  generalize (scanChunk (q ++ ['.', '*'])).2.2 = rest at hshape
  intro h
  cases hshape with
  | more c q' hlen =>
    obtain ⟨n, hn, -, rfl⟩ := matchChunk_eq_some h
    cases hn
    exact ⟨q', rfl, hlen, fun hd => hm (List.mem_of_mem_drop hd)⟩
  | star c =>
    obtain ⟨pre, hpre⟩ := matchChunk_append_plain hplain (by simp) c h
    simp at hpre
    simp [hpre] at hm
  | whole c =>
    obtain ⟨pre, hpre⟩ := matchChunk_append_plain hplain' (by simp) c h
    simp at hpre
    simp [hpre] at hm

/-- A pattern ending in `.*` matches no name without a dot. -/
theorem matchName_dotStar_ne_true (p t : List Char) :
    ∀ q, p = q ++ ['.', '*'] → '.' ∉ t → matchName p t ≠ .ok true := by
  fun_induction matchName p t with
  | case1 t => intro q hq; simp at hq
  | case2 p t hp _ star chunk hempty =>
    rintro q rfl -
    have hc : chunk ≠ [] := (scanChunk_dotStar q).1
    simp [chunk, hc] at hempty
  | case3 => simp
  | case4 p t hp _ star chunk rest _ r hm t' hfilter ih =>
    rintro q rfl ht
    obtain ⟨rfl, -⟩ := Option.filter_eq_some_iff.mp hfilter
    obtain ⟨q', hrest, -, ht'⟩ := dotStar_chunk_some ht hm
    exact ih q' hrest ht'
  | case5 => simp
  | case6 p t hp _ star chunk rest _ r hm _ t' hskip ih =>
    rintro q rfl ht
    split at hskip
    · obtain ⟨m, hsuf, hm'⟩ := skipMatch_eq_some hskip
      have hdot : '.' ∉ m := fun hd => ht (List.mem_of_mem_tail (hsuf.subset hd))
      obtain ⟨q', hrest, -, ht'⟩ := dotStar_chunk_some hdot hm'
      exact ih q' hrest ht'
    · simp at hskip
  | case7 => intros; cases checkRest _ <;> simp [Except.map]

/-- A name that a pattern ending in `.*` does not match is refused or not matched,
according as the pattern is well formed. -/
theorem matchName_dotStar_of_dot {q t : List Char} (ht : '.' ∉ t) :
    matchName (q ++ ['.', '*']) t = (checkRest (q ++ ['.', '*'])).map fun _ => false := by
  have hne := matchName_dotStar_ne_true _ t q rfl ht
  have herr := matchName_eq_error_iff (q ++ ['.', '*']) t
  revert hne herr
  cases matchName (q ++ ['.', '*']) t <;> cases checkRest (q ++ ['.', '*']) <;> simp [Except.map]

/-! ### The match after its first chunk -/

/-- How the match goes on from what a chunk after a star left of the name. -/
def afterSkip (rest : List Char) : Except Unit (Option (List Char)) → Except Unit Bool
  | .error e => .error e
  | .ok (some t) => matchName rest t
  | .ok none => (checkRest rest).map fun _ => false

section Unfold

variable {p name : List Char} (hp : p ≠ []) (hc : (scanChunk p).2.1 ≠ [])
include hp hc

theorem matchName_chunk_error (h : matchChunk (scanChunk p).2.1 (some name) = .error ()) :
    matchName p name = .error () := by
  rw [matchName, dif_neg hp]
  simp [hc, h]

theorem matchName_chunk_commit {r : Option (List Char)} {t : List Char}
    (h : matchChunk (scanChunk p).2.1 (some name) = .ok r)
    (ht : r.filter (fun t => t.isEmpty || !(scanChunk p).2.2.isEmpty) = some t) :
    matchName p name = matchName (scanChunk p).2.2 t := by
  rw [matchName, dif_neg hp]
  simp [hc, h, ht]

theorem matchName_chunk_skip {r : Option (List Char)}
    (h : matchChunk (scanChunk p).2.1 (some name) = .ok r)
    (ht : r.filter (fun t => t.isEmpty || !(scanChunk p).2.2.isEmpty) = none) :
    matchName p name = afterSkip (scanChunk p).2.2
      (if (scanChunk p).1 then skipMatch (scanChunk p).2.1 (scanChunk p).2.2.isEmpty name else .ok none) := by
  rw [matchName, dif_neg hp]
  have hce : (scanChunk p).2.1.isEmpty = false := by simpa using hc
  simp only [h, ht, hce, Bool.and_false, Bool.false_eq_true, if_false]
  rfl

end Unfold

/-- A chunk after a star whose every match leaves a name the rest of the pattern does not
match ends the match there: the name is not matched. -/
theorem afterSkip_of_doomed {chunk rest name : List Char} {last : Bool} {s r : Option (List Char)}
    (hok : matchChunk chunk s = .ok r)
    (hdoom : ∀ m t, m <:+ name.tail → matchChunk chunk (some m) = .ok (some t) →
      matchName rest t = (checkRest rest).map fun _ => false) :
    afterSkip rest (skipMatch chunk last name) = (checkRest rest).map fun _ => false := by
  rcases hs : skipMatch chunk last name with ⟨⟩ | _ | t
  · have := (matchChunk_error_iff chunk (some []) s).mp (skipMatch_error hs)
    rw [hok] at this
    cases this
  · rfl
  · obtain ⟨m, hsuf, hm⟩ := skipMatch_eq_some hs
    exact hdoom m t hsuf hm

/-! ### Tails that a pattern ending in `.*` cannot see -/

/-- If `v ++ y = a ++ c :: b` and `a` is at least as long as `v`, then `c` stands in `y`. -/
theorem mem_of_append_eq_append {v y a b : List Char} {c : Char} (h : v ++ y = a ++ c :: b)
    (hl : v.length ≤ a.length) : c ∈ y := by
  rcases List.append_eq_append_iff.mp h with ⟨a', rfl, rfl⟩ | ⟨c', rfl, hc'⟩
  · simp
  · have : c'.length = 0 := by simp only [List.length_append] at hl; omega
    rw [List.length_eq_zero_iff.mp this, List.nil_append] at hc'
    simp [← hc']

/-- A chunk of a pattern `q ++ ".*"` that reads past `v` into a tail `y` without dot or
star leaves a name without a dot, and the dot is still ahead in the pattern. -/
theorem dotStar_reads_tail {q v y t : List Char} (hy : '.' ∉ y) (hy' : '*' ∉ y)
    (hk : v.length < width (scanChunk (q ++ ['.', '*'])).2.1)
    (h : matchChunk (scanChunk (q ++ ['.', '*'])).2.1 (some (v ++ y)) = .ok (some t)) :
    ∃ q', (scanChunk (q ++ ['.', '*'])).2.2 = q' ++ ['.', '*'] ∧ '.' ∉ t := by
  have hplain : Plain ['.'] := by simp [Plain]
  have hplain' : Plain ['.', '*'] := by simp [Plain]
  obtain ⟨-, hshape⟩ := scanChunk_dotStar q
  revert h hk
  generalize (scanChunk (q ++ ['.', '*'])).2.1 = chunk at hshape
  generalize (scanChunk (q ++ ['.', '*'])).2.2 = rest at hshape
  intro hk h
  obtain ⟨n, hn, hkn, rfl⟩ := matchChunk_eq_some h
  cases hn
  cases hshape with
  | more c q' _ =>
    refine ⟨q', rfl, fun hd => hy ?_⟩
    rw [List.drop_append, List.drop_eq_nil_of_le (by omega), List.nil_append] at hd
    exact List.mem_of_mem_drop hd
  | star c =>
    obtain ⟨pre, hpre⟩ := matchChunk_append_plain hplain (by simp) c h
    simp only [Option.some.injEq] at hpre
    have hlen := congrArg List.length hpre
    simp only [List.length_append, List.length_drop, List.length_cons, List.length_nil] at hlen hkn
    exact absurd (mem_of_append_eq_append (by simpa using hpre) (by omega)) hy
  | whole c =>
    obtain ⟨pre, hpre⟩ := matchChunk_append_plain hplain' (by simp) c h
    simp only [Option.some.injEq] at hpre
    have hlen := congrArg List.length hpre
    simp only [List.length_append, List.length_drop, List.length_cons, List.length_nil] at hlen hkn
    exact absurd (mem_of_append_eq_append (a := pre ++ ['.']) (by simpa using hpre) (by simp; omega)) hy'

theorem suffix_tail_append {m v y : List Char} (h : m <:+ (v ++ y).tail) :
    (∃ v', m = v' ++ y ∧ v'.length < v.length) ∨ m <:+ y := by
  rcases v with _ | ⟨a, v⟩
  · exact .inr (h.trans (List.tail_suffix y))
  · obtain ⟨l, hl⟩ := h
    rcases List.append_eq_append_iff.mp hl with ⟨a', rfl, rfl⟩ | ⟨c', rfl, rfl⟩
    · exact .inl ⟨a', rfl, by simp only [List.length_cons, List.length_append]; omega⟩
    · exact .inr ⟨c', rfl⟩

/-- After a star, a chunk of a pattern `q ++ ".*"` that can only match reading into a tail
without dot or star leaves the name unmatched. -/
theorem dotStar_skip_tail {q v y : List Char} (hy : '.' ∉ y) (hy' : '*' ∉ y)
    (hk : v.length ≤ width (scanChunk (q ++ ['.', '*'])).2.1) {last : Bool} {s r : Option (List Char)}
    (hok : matchChunk (scanChunk (q ++ ['.', '*'])).2.1 s = .ok r) :
    afterSkip (scanChunk (q ++ ['.', '*'])).2.2
        (skipMatch (scanChunk (q ++ ['.', '*'])).2.1 last (v ++ y)) =
      (checkRest (scanChunk (q ++ ['.', '*'])).2.2).map fun _ => false := by
  refine afterSkip_of_doomed hok fun m t hsuf hm => ?_
  rcases suffix_tail_append hsuf with ⟨v', rfl, hv'⟩ | hmy
  · obtain ⟨q', hrest, ht⟩ := dotStar_reads_tail hy hy' (by omega) hm
    rw [hrest]
    exact matchName_dotStar_of_dot ht
  · obtain ⟨q', hrest, -, ht⟩ := dotStar_chunk_some (fun hd => hy (hmy.subset hd)) hm
    rw [hrest]
    exact matchName_dotStar_of_dot ht

/-- A pattern ending in `.*` whose first chunk reads past `v` into a tail without dot or
star does not match `v ++ y`. -/
theorem matchName_dotStar_reads_tail {q v y : List Char} (hy : '.' ∉ y) (hy' : '*' ∉ y)
    (hk : v.length < width (scanChunk (q ++ ['.', '*'])).2.1) :
    matchName (q ++ ['.', '*']) (v ++ y) = (checkRest (q ++ ['.', '*'])).map fun _ => false := by
  have hp : q ++ ['.', '*'] ≠ [] := by simp
  have hc := (scanChunk_dotStar q).1
  rcases hm : matchChunk (scanChunk (q ++ ['.', '*'])).2.1 (some (v ++ y)) with ⟨⟩ | r
  · rw [matchName_chunk_error hp hc hm, checkRest_chunk_error hp hm]
    rfl
  rw [checkRest_chunk_ok hp hm]
  rcases r with _ | t
  · rw [matchName_chunk_skip hp hc hm rfl]
    split
    · exact dotStar_skip_tail hy hy' (Nat.le_of_lt hk) hm
    · rfl
  · obtain ⟨q', hrest, ht⟩ := dotStar_reads_tail hy hy' hk hm
    rw [matchName_chunk_commit hp hc hm (t := t) (by simp [hrest]), hrest]
    exact matchName_dotStar_of_dot ht

theorem matchName_star (name : List Char) : matchName ['*'] name = .ok (!name.contains '/') := by
  rw [matchName, dif_neg (by simp)]
  rfl

/-- A tail of a name that a pattern ending in `.*` cannot tell from another such tail:
not empty, with no dot, star or separator in it. -/
structure Unmarked (y : List Char) : Prop where
  ne_nil : y ≠ []
  no_dot : '.' ∉ y
  no_star : '*' ∉ y
  no_sep : '/' ∉ y

section Tails

variable {q y y' : List Char} (hy : Unmarked y) (hy' : Unmarked y')
include hy hy'

/-- After a star, the chunk of a pattern `q ++ ".*"` goes through a name the same way
whichever unmarked tail the name ends in, given that the rest of the pattern does. -/
theorem afterSkip_tail {s r : Option (List Char)}
    (hok : matchChunk (scanChunk (q ++ ['.', '*'])).2.1 s = .ok r) (last : Bool)
    (hrest : ∀ u, matchName (scanChunk (q ++ ['.', '*'])).2.2 (u ++ y) =
      matchName (scanChunk (q ++ ['.', '*'])).2.2 (u ++ y')) (w : List Char) :
    afterSkip (scanChunk (q ++ ['.', '*'])).2.2 (skipMatch (scanChunk (q ++ ['.', '*'])).2.1 last (w ++ y)) =
      afterSkip (scanChunk (q ++ ['.', '*'])).2.2 (skipMatch (scanChunk (q ++ ['.', '*'])).2.1 last (w ++ y')) := by
  induction w with
  | nil =>
    rw [dotStar_skip_tail hy.no_dot hy.no_star (v := []) (Nat.zero_le _) hok,
      dotStar_skip_tail hy'.no_dot hy'.no_star (v := []) (Nat.zero_le _) hok]
  | cons x w ih =>
    by_cases hkw : w.length < width (scanChunk (q ++ ['.', '*'])).2.1
    · -- from here on the chunk reads into the tail: no match either way
      rw [dotStar_skip_tail hy.no_dot hy.no_star (v := x :: w) (by simp; omega) hok,
        dotStar_skip_tail hy'.no_dot hy'.no_star (v := x :: w) (by simp; omega) hok]
    have hfits : ∀ n, some w = some n → width (scanChunk (q ++ ['.', '*'])).2.1 ≤ n.length := by
      rintro n ⟨⟩
      omega
    have hA := matchChunk_append y hfits
    have hA' := matchChunk_append y' hfits
    simp only [Option.map_some] at hA hA'
    rw [List.cons_append, List.cons_append, skipMatch, skipMatch, hA, hA']
    by_cases hx : x = '/'
    · simp [hx]
    rw [if_neg hx, if_neg hx]
    rcases hm : matchChunk (scanChunk (q ++ ['.', '*'])).2.1 (some w) with ⟨⟩ | _ | u
    · have := (matchChunk_error_iff _ (some w) s).mp hm
      rw [hok] at this
      cases this
    · exact ih
    · have hne : (u ++ y).isEmpty = false := by simp [hy.ne_nil]
      have hne' : (u ++ y').isEmpty = false := by simp [hy'.ne_nil]
      simp only [Except.map, Option.map_some, hne, hne']
      cases last
      · exact hrest u
      · exact ih

/-- A pattern ending in `.*` does not tell apart two names that differ only in an
unmarked tail. -/
theorem matchName_dotStar_tail (q w : List Char) :
    matchName (q ++ ['.', '*']) (w ++ y) = matchName (q ++ ['.', '*']) (w ++ y') := by
  induction hn : q.length using Nat.strongRecOn generalizing q w with
  | _ n ih =>
  have hp : q ++ ['.', '*'] ≠ [] := by simp
  obtain ⟨hc, hshape⟩ := scanChunk_dotStar q
  -- the rest of the pattern cannot tell the tails apart either
  have hrest : ∀ u, matchName (scanChunk (q ++ ['.', '*'])).2.2 (u ++ y) =
      matchName (scanChunk (q ++ ['.', '*'])).2.2 (u ++ y') := by
    intro u
    generalize (scanChunk (q ++ ['.', '*'])).2.1 = chunk at hshape
    generalize (scanChunk (q ++ ['.', '*'])).2.2 = rest at hshape ⊢
    cases hshape with
    | more c q' hlen => exact ih q'.length (by omega) q' u rfl
    | star c => simp [matchName_star, hy.no_sep, hy'.no_sep]
    | whole c =>
      have h1 : (u ++ y).isEmpty = false := by simp [hy.ne_nil]
      have h2 : (u ++ y').isEmpty = false := by simp [hy'.ne_nil]
      simp [matchName, h1, h2]
  by_cases hkw : w.length < width (scanChunk (q ++ ['.', '*'])).2.1
  · -- the first chunk reads into the tail: neither name is matched
    rw [matchName_dotStar_reads_tail hy.no_dot hy.no_star hkw,
      matchName_dotStar_reads_tail hy'.no_dot hy'.no_star hkw]
  have hfits : ∀ n, some w = some n → width (scanChunk (q ++ ['.', '*'])).2.1 ≤ n.length := by
    rintro n ⟨⟩
    omega
  have hA := matchChunk_append y hfits
  have hA' := matchChunk_append y' hfits
  simp only [Option.map_some] at hA hA'
  rcases hm : matchChunk (scanChunk (q ++ ['.', '*'])).2.1 (some w) with ⟨⟩ | r
  · rw [hm] at hA hA'
    rw [matchName_chunk_error hp hc hA, matchName_chunk_error hp hc hA']
  rw [hm] at hA hA'
  simp only [Except.map] at hA hA'
  rcases r with _ | u
  · -- no match in place: the chunk is tried further after a star
    rw [matchName_chunk_skip hp hc hA rfl, matchName_chunk_skip hp hc hA' rfl]
    split
    · exact afterSkip_tail hy hy' hA _ hrest w
    · rfl
  by_cases hr : (scanChunk (q ++ ['.', '*'])).2.2 = []
  · -- the last chunk matches in place but does not end the name
    rw [matchName_chunk_skip hp hc hA (by simp [hr, hy.ne_nil]),
      matchName_chunk_skip hp hc hA' (by simp [hr, hy'.ne_nil])]
    split
    · exact afterSkip_tail hy hy' hA _ hrest w
    · rfl
  · rw [matchName_chunk_commit hp hc hA (t := u ++ y) (by simp [hr]),
      matchName_chunk_commit hp hc hA' (t := u ++ y') (by simp [hr])]
    exact hrest u

end Tails

/-! ### Paths without pattern characters -/

/-- A text in which no character is special to a pattern. -/
def Literal (path : List Char) : Prop := ∀ c ∈ path, c ≠ '*' ∧ c ≠ '?' ∧ c ≠ '[' ∧ c ≠ '\\'

instance (path : List Char) : Decidable (Literal path) :=
  decidable_of_iff (path.all fun c => c != '*' && c != '?' && c != '[' && c != '\\') (by
    simp only [List.all_eq_true, Literal, Bool.and_eq_true, bne_iff_ne, ne_eq, and_assoc])

theorem Literal.plain {path : List Char} (h : Literal path) : Plain (path ++ ['.']) := by
  intro c hc
  rcases List.mem_append.mp hc with hc | hc
  · obtain ⟨-, h2, h3, h4⟩ := h c hc
    exact ⟨h3, h2, h4⟩
  · simp at hc
    subst hc
    decide

theorem chunkSpan_literal {path : List Char} (h : Literal path) :
    chunkSpan false (path ++ ['.', '*']) = (path ++ ['.'], ['*']) := by
  induction path with
  | nil => simp [chunkSpan]
  | cons a path ih =>
    obtain ⟨h1, -, h3, h4⟩ := h a List.mem_cons_self
    have ih := ih fun c hc => h c (List.mem_cons_of_mem a hc)
    rw [List.cons_append, chunkSpan]
    · simp [h1, h3, ih]
    · intro c cs ha
      exact absurd ha h4

theorem scanChunk_literal {path : List Char} (h : Literal path) :
    scanChunk (path ++ ['.', '*']) = (false, path ++ ['.'], ['*']) := by
  have hdrop : (path ++ ['.', '*']).dropWhile (· = '*') = path ++ ['.', '*'] := by
    rcases path with _ | ⟨a, path⟩
    · decide
    · rw [List.cons_append, List.dropWhile_cons_of_neg (by simpa using (h a List.mem_cons_self).1)]
  simp [scanChunk, hdrop, chunkSpan_literal h]

/-- A pattern made of a literal path and `.*` matches the names that extend the path
by a dot and a tail without a separator. -/
theorem matchName_literal {path : List Char} (h : Literal path) (tail : List Char) :
    matchName (path ++ ['.', '*']) (path ++ '.' :: tail) = .ok (!tail.contains '/') := by
  have hsc := scanChunk_literal h
  have hm : matchChunk (scanChunk (path ++ ['.', '*'])).2.1 (some (path ++ '.' :: tail)) =
      .ok (some tail) := by
    rw [hsc]
    simpa using matchChunk_plain_self h.plain tail
  rw [matchName_chunk_commit (by simp) (by simp [hsc]) hm (t := tail) (by simp [hsc]), hsc]
  exact matchName_star tail

/-- A pattern made of a literal path and `.*` is well formed. -/
theorem checkRest_literal {path : List Char} (h : Literal path) :
    checkRest (path ++ ['.', '*']) = .ok () := by
  have hsc := scanChunk_literal h
  have hm : matchChunk (scanChunk (path ++ ['.', '*'])).2.1 (some (path ++ ['.'])) = .ok (some []) := by
    rw [hsc]
    simpa using matchChunk_plain_self h.plain []
  have hstar : scanChunk ['*'] = (true, [], []) := by simp [scanChunk, chunkSpan]
  rw [checkRest_chunk_ok (by simp) hm, hsc,
    checkRest_chunk_ok (p := ['*']) (by simp) (s := some []) (by rw [hstar, matchChunk_nil]), hstar]
  simp [checkRest]

/-! ### Listing the names a pattern matches -/

theorem toOption_beq_some_true (x : Except Unit Bool) : (x.toOption == some true) = true ↔ x = .ok true := by
  rcases x with ⟨⟩ | _ | _ <;> simp [Except.toOption]

/-- Among names that differ only in unmarked tails, a pattern ending in `.*` lists all of
them or none, unless it is refused. -/
theorem glob_dotStar_all_or_none {pattern : String} {q w : List Char}
    (hp : pattern.toList = q ++ ['.', '*']) {names : List String}
    (hn : ∀ n ∈ names, ∃ y, n.toList = w ++ y ∧ Unmarked y) :
    glob pattern names = .error () ∨ glob pattern names = .ok [] ∨
      glob pattern names = .ok (names.mergeSort fun a b => decide (a ≤ b)) := by
  unfold glob
  rcases hv : matchName pattern.toList [] with ⟨⟩ | b
  · exact .inl rfl
  refine .inr ?_
  simp only
  -- every name gets the verdict of every other
  have hsame : ∀ n ∈ names, ∀ n' ∈ names,
      matchName pattern.toList n.toList = matchName pattern.toList n'.toList := by
    intro n hn₁ n' hn₂
    obtain ⟨y, hy, hu⟩ := hn n hn₁
    obtain ⟨y', hy', hu'⟩ := hn n' hn₂
    rw [hy, hy', hp]
    exact matchName_dotStar_tail hu hu' q w
  by_cases hall : ∀ n ∈ names, matchName pattern.toList n.toList = .ok true
  · refine .inr ?_
    rw [List.filter_eq_self.mpr fun n hn => (toOption_beq_some_true _).mpr (hall n hn)]
  · refine .inl ?_
    obtain ⟨n₀, hn₀, hne⟩ : ∃ n ∈ names, matchName pattern.toList n.toList ≠ .ok true := by
      simpa using hall
    rw [List.filter_eq_nil_iff.mpr fun n hn h => hne ((hsame n₀ hn₀ n hn).trans
      ((toOption_beq_some_true _).mp h))]
    simp

/-- A pattern made of a literal path and `.*` lists every name that extends the path by a
dot and a tail without a separator, sorted. -/
theorem glob_literal {pattern : String} {path : List Char} (hp : pattern.toList = path ++ ['.', '*'])
    (hl : Literal path) {names : List String}
    (hn : ∀ n ∈ names, ∃ y, n.toList = path ++ '.' :: y ∧ '/' ∉ y) :
    glob pattern names = .ok (names.mergeSort fun a b => decide (a ≤ b)) := by
  have hwf : checkRest pattern.toList = .ok () := by rw [hp, checkRest_literal hl]
  unfold glob
  rcases hv : matchName pattern.toList [] with ⟨⟩ | b
  · rw [(matchName_eq_error_iff _ _).mp hv] at hwf
    cases hwf
  simp only
  rw [List.filter_eq_self.mpr fun n hmem => ?_]
  obtain ⟨y, hy, hsep⟩ := hn n hmem
  rw [toOption_beq_some_true, hy, hp, matchName_literal hl]
  simpa using hsep

end NetFleet.Text
