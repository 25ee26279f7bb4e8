import Mathlib
import NetFleet.Column.Kind

/-!
# Capitals are their own capitals

`upperChar` gives a character its capital by the simple upper-case mapping of
Unicode, read from the table of runs `upperRuns`. Upper-casing twice is
upper-casing once:

    upperChar (upperChar c) = upperChar c

The capital of a character is the character itself or one of the capitals the
table lists (`upperChar_cases`), so it is enough that no listed capital is a
code point the table gives a capital to. That is a fact about the table alone,
checked once over the whole of it with the code points that have a capital
held as the bits of one number (`capitals_clear`). No capital is `_` either, so
a set id is normalized once and for all (`normalizeSetId_normalizeSetId`).
-/

namespace NetFleet.Text

/-! ### The runs of the table -/

/-- The steps of a run, counted from its first code point. -/
def CaseRun.steps (r : CaseRun) : List Nat := List.range ((r.last - r.first) / r.step + 1)

/-- A run gives the code point `n` a capital: `n` lies in it at one of its steps. -/
def CaseRun.Covers (r : CaseRun) (n : Nat) : Prop :=
  r.first ≤ n ∧ n ≤ r.last ∧ (n - r.first) % r.step = 0

/-- The code points that the runs give a capital to. -/
def runPositions (runs : List CaseRun) : List Nat :=
  runs.flatMap fun r => r.steps.map fun k => r.first + k * r.step

/-- The capitals that the runs give. -/
def runCapitals (runs : List CaseRun) : List Nat :=
  runs.flatMap fun r => r.steps.map fun k => ((r.first + k * r.step : Nat) + r.shift).toNat

theorem CaseRun.covers_step {r : CaseRun} {n : Nat} (h : r.Covers n) :
    ∃ k ∈ r.steps, r.first + k * r.step = n := by
  obtain ⟨hlo, hhi, hmod⟩ := h
  refine ⟨(n - r.first) / r.step, List.mem_range.2 (Nat.lt_succ_of_le ?_), ?_⟩
  · exact Nat.div_le_div_right (by omega)
  · rw [Nat.div_mul_cancel (Nat.dvd_of_mod_eq_zero hmod)]
    omega

theorem mem_runPositions {runs : List CaseRun} {r : CaseRun} {n : Nat} (hr : r ∈ runs)
    (h : r.Covers n) : n ∈ runPositions runs := by
  obtain ⟨k, hk, rfl⟩ := CaseRun.covers_step h
  exact List.mem_flatMap.2 ⟨r, hr, List.mem_map.2 ⟨k, hk, rfl⟩⟩

theorem mem_runCapitals {runs : List CaseRun} {r : CaseRun} {n : Nat} (hr : r ∈ runs)
    (h : r.Covers n) : (n + r.shift).toNat ∈ runCapitals runs := by
  obtain ⟨k, hk, rfl⟩ := CaseRun.covers_step h
  exact List.mem_flatMap.2 ⟨r, hr, List.mem_map.2 ⟨k, hk, rfl⟩⟩

/-- The lookup gives a code point itself, or the capital of the first run that
covers it. -/
theorem runCapital_cases (n : Nat) (runs : List CaseRun) :
    runCapital n runs = n ∨ ∃ r ∈ runs, r.Covers n ∧ runCapital n runs = (n + r.shift).toNat := by
  induction runs with
  | nil => exact .inl rfl
  | cons r rest ih =>
    unfold runCapital
    split_ifs with hlt hin
    · exact .inl rfl
    · simp only [Bool.and_eq_true, decide_eq_true_eq] at hin
      exact .inr ⟨r, List.mem_cons_self, ⟨by omega, hin.1, hin.2⟩, rfl⟩
    · rcases ih with h | ⟨r', hr', hc, h⟩
      · exact .inl h
      · exact .inr ⟨r', List.mem_cons_of_mem r hr', hc, h⟩

theorem runCapital_of_not_mem {n : Nat} {runs : List CaseRun} (h : n ∉ runPositions runs) :
    runCapital n runs = n := by
  rcases runCapital_cases n runs with h' | ⟨r, hr, hc, -⟩
  · exact h'
  · exact absurd (mem_runPositions hr hc) h

/-! ### The check of the table -/

/-- A list of numbers as the bits of one number. -/
def bitsOf (ps : List Nat) : Nat := ps.foldr (fun p acc => acc ||| 1 <<< p) 0

theorem testBit_bitsOf (ps : List Nat) (m : Nat) : (bitsOf ps).testBit m = decide (m ∈ ps) := by
  induction ps with
  | nil => simp [bitsOf]
  | cons p ps ih =>
    rw [bitsOf, List.foldr_cons, ← bitsOf, Nat.testBit_lor, ih, Nat.one_shiftLeft, Nat.testBit_two_pow]
    by_cases h : m = p <;> simp [h, eq_comm]

/-- Whether each of `caps` is a character other than `_` and none of the bits
of `taken`. -/
def capitalsClear (taken : Nat) (caps : List Nat) : Bool :=
  caps.all fun m =>
    (m < 0xd800 || (0xdfff < m && m < 0x110000)) && m != 0x5F && !taken.testBit m

/-- The capitals of the table are characters other than `_`, and the table
gives none of them a capital. -/
theorem capitals_clear : capitalsClear (bitsOf (runPositions upperRuns)) (runCapitals upperRuns) = true := by
  decide +kernel

theorem capital_facts {m : Nat} (hm : m ∈ runCapitals upperRuns) :
    m.isValidChar ∧ m ≠ 0x5F ∧ m ∉ runPositions upperRuns := by
  have h := List.all_eq_true.1 capitals_clear m hm
  simp only [Bool.and_eq_true, Bool.or_eq_true, decide_eq_true_eq, bne_iff_ne, ne_eq,
    Bool.not_eq_true', testBit_bitsOf, decide_eq_false_iff_not] at h
  exact ⟨h.1.1, h.1.2, h.2⟩

/-! ### Capitals -/

/-- The small ASCII letters are the first run of the table. -/
theorem ascii_run_mem : (⟨0x61, 0x7A, 1, -32⟩ : CaseRun) ∈ upperRuns := List.mem_cons_self

/-- The capital of a character is itself or a capital of the table. -/
theorem upperChar_cases (c : Char) :
    upperChar c = c ∨ ∃ m ∈ runCapitals upperRuns, upperChar c = Char.ofNat m := by
  unfold upperChar
  dsimp only
  split_ifs with hascii hlower
  · right
    refine ⟨(c.toNat + (-32 : Int)).toNat, mem_runCapitals ascii_run_mem ⟨hlower.1, hlower.2, ?_⟩, ?_⟩
    · exact Nat.mod_one _
    · congr 1
      omega
  · exact .inl rfl
  · rcases runCapital_cases c.toNat upperRuns with h | ⟨r, hr, hc, h⟩
    · left
      rw [h, Char.ofNat_toNat]
    · exact .inr ⟨_, mem_runCapitals hr hc, by rw [h]⟩

/-- A capital of the table is its own capital. -/
theorem upperChar_capital {m : Nat} (hm : m ∈ runCapitals upperRuns) :
    upperChar (Char.ofNat m) = Char.ofNat m := by
  obtain ⟨hvalid, -, hfree⟩ := capital_facts hm
  unfold upperChar
  dsimp only
  rw [Char.toNat_ofNat, if_pos hvalid]
  split_ifs with hascii hlower
  · -- a small ASCII letter would be given a capital by the first run
    exact absurd (mem_runPositions ascii_run_mem ⟨hlower.1, hlower.2, Nat.mod_one _⟩) hfree
  · rfl
  · rw [runCapital_of_not_mem hfree]

/-- Upper-casing is idempotent: a capital is its own capital. -/
theorem upperChar_upperChar (c : Char) : upperChar (upperChar c) = upperChar c := by
  rcases upperChar_cases c with h | ⟨m, hm, h⟩
  · rw [h, h]
  · rw [h]
    exact upperChar_capital hm

/-- Only `_` has the capital `_`. -/
theorem upperChar_eq_underscore {c : Char} : upperChar c = '_' ↔ c = '_' := by
  constructor
  · intro h
    rcases upperChar_cases c with h' | ⟨m, hm, h'⟩
    · rw [← h', h]
    · obtain ⟨hvalid, hne, -⟩ := capital_facts hm
      have hm' := congrArg Char.toNat (h'.symm.trans h)
      rw [Char.toNat_ofNat, if_pos hvalid] at hm'
      exact absurd hm' hne
  · rintro rfl
    rfl

/-! ### Text in capitals -/

theorem upper_toList (s : String) : (upper s).toList = s.toList.map upperChar := String.toList_ofList

theorem upper_upper (s : String) : upper (upper s) = upper s := by
  show String.ofList ((upper s).toList.map upperChar) = String.ofList (s.toList.map upperChar)
  rw [upper_toList, List.map_map]
  congr 1
  exact List.map_congr_left fun c _ => upperChar_upperChar c

theorem upper_eq_empty {s : String} : upper s = "" ↔ s = "" := by
  rw [← String.toList_inj, upper_toList, String.toList_empty, List.map_eq_nil_iff, ← String.toList_empty,
    String.toList_inj]

theorem startsWith_underscore (s : String) : s.startsWith "_" = true ↔ s.toList.head? = some '_' := by
  rw [String.startsWith_string_iff]
  cases s.toList with
  | nil => simp
  | cons c cs => simp [List.cons_prefix_cons, eq_comm]

theorem startsWith_upper (s : String) : (upper s).startsWith "_" = s.startsWith "_" := by
  rw [Bool.eq_iff_iff, startsWith_underscore, startsWith_underscore, upper_toList, List.head?_map]
  cases s.toList.head? with
  | none => simp
  | some c => simp [upperChar_eq_underscore]

end NetFleet.Text

namespace NetFleet.Column

open Text

/-- A set id is normalized once and for all: capitals stay capitals, and no
capital is `_`, so an id that was upper-cased is upper-cased again. -/
theorem normalizeSetId_normalizeSetId (id : String) :
    normalizeSetId (normalizeSetId id) = normalizeSetId id := by
  by_cases h : id = "" ∨ id.startsWith "_" = true
  · have hn : normalizeSetId id = id := if_pos h
    rw [hn, hn]
  · have hn : normalizeSetId id = upper id := if_neg h
    have h' : ¬(upper id = "" ∨ (upper id).startsWith "_" = true) := by
      rw [upper_eq_empty, startsWith_upper]
      exact h
    rw [hn, normalizeSetId, if_neg h', upper_upper]

end NetFleet.Column
