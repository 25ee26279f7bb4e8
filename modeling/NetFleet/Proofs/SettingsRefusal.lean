import Mathlib
import NetFleet.Settings.Agent

/-!
# A refused setting

A setting is written by its key from text. The text-valued keys take any
text, so only two things are refused: an unknown key, and a value that the
key's reader does not accept (a duration, a boolean or an integer). An unknown
key is refused before anything is written. A typed key stores what its reader
returned in the same step as the error, so a refused value is not undone: the
field of the key holds the reader's value for a failure, and every other field
is as it was. That value is zero for a duration and false for a boolean. For an
integer it is `refusedInt`: the reader scans the digits after the sign and stops
at the first one that takes the value to `2 ^ 64`, so the bound of 64 bits on
the side of the sign is left both for digits out of range and for a text whose
leading digits reach `2 ^ 64` before a character that is no digit
(`99999999999999999999x`); any other refused text leaves zero.
-/

namespace NetFleet.Text

/-! ### Scanning the digits of an integer -/

/-- The value of digits read after the value `a`. -/
def digitsFrom (a : Nat) (ds : List Char) : Nat := ds.foldl (fun acc c => acc * 10 + (c.toNat - 48)) a

theorem le_digitsFrom (a : Nat) (ds : List Char) : a ≤ digitsFrom a ds := by
  induction ds generalizing a with
  | nil => exact le_refl a
  | cons c ds ih =>
    calc a ≤ a * 10 + (c.toNat - 48) := by omega
      _ ≤ digitsFrom (a * 10 + (c.toNat - 48)) ds := ih _

theorem digitsFrom_cons (a : Nat) (c : Char) (ds : List Char) :
    digitsFrom a (c :: ds) = digitsFrom (a * 10 + (c.toNat - 48)) ds := by
  simp only [digitsFrom, List.foldl_cons]

theorem go_none {a : Nat} {cs : List Char} (ha : a < 2 ^ 64) (h : unsignedDigits.go a cs = none) :
    (∃ c ∈ cs, c.isDigit = false) ∧ digitsFrom a (cs.takeWhile Char.isDigit) < 2 ^ 64 := by
  induction cs generalizing a with
  | nil => simp [unsignedDigits.go] at h
  | cons c cs ih =>
    have hdig : ('0' ≤ c && c ≤ '9') = c.isDigit := rfl
    simp only [unsignedDigits.go, hdig] at h
    by_cases hc : c.isDigit = true
    · rw [if_pos hc] at h
      have hp : Nat.pow 2 64 = 2 ^ 64 := rfl
      by_cases hn : a * 10 + (c.toNat - 48) ≥ Nat.pow 2 64
      · rw [if_pos hn] at h
        cases h
      · rw [if_neg hn] at h
        obtain ⟨⟨c', hc', hnd⟩, hv⟩ := ih (by omega) h
        refine ⟨⟨c', List.mem_cons_of_mem _ hc', hnd⟩, ?_⟩
        rw [List.takeWhile_cons_of_pos hc, digitsFrom_cons]
        exact hv
    · refine ⟨⟨c, List.mem_cons_self, by simpa using hc⟩, ?_⟩
      rw [List.takeWhile_cons_of_neg hc]
      exact ha

theorem go_overflow {a : Nat} {cs : List Char} (h : unsignedDigits.go a cs = some none) :
    2 ^ 64 ≤ digitsFrom a (cs.takeWhile Char.isDigit) := by
  induction cs generalizing a with
  | nil => simp [unsignedDigits.go] at h
  | cons c cs ih =>
    have hdig : ('0' ≤ c && c ≤ '9') = c.isDigit := rfl
    simp only [unsignedDigits.go, hdig] at h
    by_cases hc : c.isDigit = true
    · rw [if_pos hc] at h
      rw [List.takeWhile_cons_of_pos hc, digitsFrom_cons]
      have hp : Nat.pow 2 64 = 2 ^ 64 := rfl
      by_cases hn : a * 10 + (c.toNat - 48) ≥ Nat.pow 2 64
      · -- the digit that leaves the range ends the reading
        exact le_trans (by omega) (le_digitsFrom _ _)
      · rw [if_neg hn] at h
        exact ih h
    · rw [if_neg hc] at h
      cases h

theorem go_digits {a m : Nat} {cs : List Char} (h : unsignedDigits.go a cs = some (some m)) :
    ∀ c ∈ cs, c.isDigit = true := by
  induction cs generalizing a with
  | nil => simp
  | cons c cs ih =>
    have hdig : ('0' ≤ c && c ≤ '9') = c.isDigit := rfl
    simp only [unsignedDigits.go, hdig] at h
    by_cases hc : c.isDigit = true
    · rw [if_pos hc] at h
      split at h
      · cases h
      · exact List.forall_mem_cons.2 ⟨hc, ih h⟩
    · rw [if_neg hc] at h
      cases h

end NetFleet.Text

namespace NetFleet.Settings

open NetFleet.Text

/-! ### What the readers leave for a refused text -/

/-- The bound of 64 bits on the side of a sign. -/
def intBound (neg : Bool) : Int := if neg then -Int.pow 2 63 else Int.pow 2 63 - 1

/-- The integer the reader leaves for a text it refuses. -/
def refusedInt (v : String) : Int :=
  let cs := (splitSign v.toList).2
  if (cs ≠ [] ∧ ∀ c ∈ cs, c.isDigit = true) ∨ 2 ^ 64 ≤ digitsFrom 0 (cs.takeWhile Char.isDigit) then
    intBound (splitSign v.toList).1
  else 0

theorem readInt_refused {v : String} (h : (readInt v).2.isSome) : (readInt v).1 = refusedInt v := by
  revert h
  unfold readInt refusedInt
  rcases hs : splitSign v.toList with ⟨neg, cs⟩
  dsimp only
  rcases hu : unsignedDigits cs with _ | _ | n
  · -- no integer: no digits, or a character that is no digit before the range is left
    intro _
    have hno : ¬((cs ≠ [] ∧ ∀ c ∈ cs, c.isDigit = true) ∨
        2 ^ 64 ≤ digitsFrom 0 (cs.takeWhile Char.isDigit)) := by
      unfold unsignedDigits at hu
      split at hu
      next he =>
        obtain rfl : cs = [] := List.isEmpty_iff.1 he
        simp [digitsFrom]
      · obtain ⟨⟨c, hc, hnd⟩, hv⟩ := go_none (by norm_num) hu
        rintro (⟨-, hall⟩ | hv')
        · simp [hall c hc] at hnd
        · omega
    rw [if_neg hno]
  · -- the range is left before the digits end
    intro _
    unfold unsignedDigits at hu
    split at hu
    · cases hu
    rw [if_pos (Or.inr (go_overflow hu))]
    cases neg <;> rfl
  · -- a sign and digits out of range
    unfold unsignedDigits at hu
    split at hu
    · cases hu
    next hne =>
    have hcond : cs ≠ [] ∧ ∀ c ∈ cs, c.isDigit = true := ⟨fun h => by simp [h] at hne, go_digits hu⟩
    rw [if_pos (Or.inl hcond)]
    dsimp only
    split
    next hpos =>
      intro _
      simp only [Bool.and_eq_true, Bool.not_eq_eq_eq_not, Bool.not_true] at hpos
      simp [intBound, hpos.1]
    · split
      next hneg =>
        intro _
        simp only [Bool.and_eq_true] at hneg
        simp [intBound, hneg.1]
      · simp

theorem readBool_refused {v : String} (h : (readBool v).2.isSome) : (readBool v).1 = false := by
  revert h
  unfold readBool
  split
  · simp
  · split <;> simp

/-! ### The settings after a refusal -/

/-- What a refused setting of `key` to `value` may have made of `s`: nothing for
an unknown key; for a typed key, its own field set to the reader's value for a
failure, every other field as it was. -/
def Refused (s : Agent) (key value : String) (s' : Agent) : Prop :=
  (key ∉ keys ∧ s' = s) ∨
  (key = "netdb.timeout" ∧ s' = { s with timeout := 0 }) ∨
  (key = "netdb_local.enabled" ∧ s' = { s with localEnabled := false }) ∨
  (key = "redis.db" ∧ s' = { s with redisDb := refusedInt value }) ∨
  (key = "device.port" ∧ s' = { s with devicePort := refusedInt value })

/-- A refused setting changes at most the field of its key. -/
theorem set_refusal_confined (s : Agent) (key value : String) (h : (s.set key value).2.isSome) :
    Refused s key value (s.set key value).1 := by
  revert h
  unfold Agent.set
  split
  case h_6 =>
    -- a duration that does not read leaves zero
    split <;> simp [Refused]
  case h_7 =>
    intro h
    simp only [Option.isSome_map] at h
    simp [Refused, readBool_refused h]
  case h_10 | h_12 =>
    intro h
    simp only [Option.isSome_map] at h
    simp [Refused, readInt_refused h]
  case h_17 =>
    -- an unknown key is refused before anything is written
    intro _
    left
    simp_all [keys]
  -- the keys that take any text are never refused
  all_goals simp

/-- A port whose digits leave the range before a character that is no digit is
refused; only the port changes, and it is left at the upper bound. -/
theorem refused_port_confined :
    (({ devicePort := 2200 } : Agent).set "device.port" "99999999999999999999x").2.isSome ∧
      Refused { devicePort := 2200 } "device.port" "99999999999999999999x"
        (({ devicePort := 2200 } : Agent).set "device.port" "99999999999999999999x").1 ∧
      refusedInt "99999999999999999999x" = 2 ^ 63 - 1 :=
  ⟨by decide, set_refusal_confined _ _ _ (by decide), (readInt_refused (by decide)).symm.trans (by decide)⟩

/-- A database number that is no integer is refused, and the number stored
before is lost. -/
theorem refused_db_lost :
    (({ redisDb := 3 } : Agent).set "redis.db" "two").2.isSome ∧
      (({ redisDb := 3 } : Agent).set "redis.db" "two").1 ≠ { redisDb := 3 } :=
  ⟨by decide, fun h => absurd (congrArg Agent.redisDb h) (by decide)⟩

end NetFleet.Settings
