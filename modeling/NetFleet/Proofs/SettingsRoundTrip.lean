import NetFleet.Settings.Agent
import NetFleet.Proofs.DurationText
import NetFleet.Proofs.Capitals

/-!
# Settings read back

Every setting but the password is read as text in the form it is set from, and
setting it back from that text changes nothing and is not refused:

    s.get k = .ok t   and   s.set k t = (s, none)

for every key `k` other than `device.password`, in every state reached from the
defaults by settings of any keys to any texts, refused ones included. Each key
pairs a printer with a reader. Texts are stored as they are; booleans are
written `true` and `false`; integers in decimal (`readInt_toString`); durations
by `Duration.show` (`read_show`); set ids are normalized once and for all
(`normalizeSetId_normalizeSetId`). What makes the readers give back the value
is that the stored numbers are of 64 bits and the set id is normalized
(`Agent.Sane`). Every setting keeps that, refused or not, since each reader
only gives such values (`Agent.Sane.set`).
-/

namespace NetFleet.Text

open Decimal (digitsValue)

/-! ### Integers -/

/-- Digits are read one after the other with no overflow while the number stays
below `2 ^ 64`. -/
theorem unsignedDigits_go {a : Nat} {ds : List Char} (hd : ∀ c ∈ ds, c.isDigit = true)
    (hv : a * 10 ^ ds.length + digitsValue ds < 2 ^ 64) :
    unsignedDigits.go a ds = some (some (a * 10 ^ ds.length + digitsValue ds)) := by
  induction ds generalizing a with
  | nil => simp [unsignedDigits.go]
  | cons c ds ih =>
    have hc := hd c List.mem_cons_self
    simp only [Char.isDigit, Bool.and_eq_true, decide_eq_true_eq] at hc
    have hval : digitsValue (c :: ds) = (c.toNat - 48) * 10 ^ ds.length + digitsValue ds := by
      have hone : digitsValue [c] = c.toNat - 48 := by
        simpa using digitsValue_append_singleton [] c
      rw [← List.singleton_append, digitsValue_append, hone]
    -- the number read so far, shifted past the digits still to come
    have hshift : (a * 10 + (c.toNat - 48)) * 10 ^ ds.length + digitsValue ds =
        a * 10 ^ (c :: ds).length + digitsValue (c :: ds) := by
      rw [hval, List.length_cons, Nat.pow_succ]
      ring
    have hpos : 0 < 10 ^ ds.length := Nat.pow_pos (by decide)
    have hnext : a * 10 + (c.toNat - 48) < 2 ^ 64 :=
      lt_of_le_of_lt (Nat.le_mul_of_pos_right _ hpos) (by rw [← hshift] at hv; omega)
    rw [unsignedDigits.go, if_pos (by simpa [Char.le_def] using hc),
      if_neg (by rw [Nat.pow_eq]; omega), ih (fun c hc => hd c (List.mem_cons_of_mem _ hc))
        (by rw [hshift]; exact hv), hshift]

theorem unsignedDigits_toDigits {m : Nat} (hm : m < 2 ^ 64) :
    unsignedDigits (Nat.toDigits 10 m) = some (some m) := by
  have hd : ∀ c ∈ Nat.toDigits 10 m, c.isDigit = true := fun _ hc => isDigit_of_mem_toDigits hc
  have hgo := unsignedDigits_go (a := 0) hd (by rw [digitsValue_toDigits]; omega)
  rw [Nat.zero_mul, Nat.zero_add, digitsValue_toDigits] at hgo
  obtain ⟨c, cs, hcs, -⟩ := toDigits_cons m
  rw [unsignedDigits, hcs, List.isEmpty_cons, if_neg Bool.false_ne_true, ← hcs, hgo]

/-- The text of a non-negative integer has no sign. -/
theorem splitSign_toDigits (m : Nat) : splitSign (Nat.toDigits 10 m) = (false, Nat.toDigits 10 m) := by
  obtain ⟨c, cs, hcs, hc⟩ := toDigits_cons m
  rw [hcs]
  exact splitSign_of_isNumberChar (isNumberChar_of_isDigit hc)

/-- The decimal text of every integer of 64 bits reads back as that integer. -/
theorem readInt_toString {n : Int} (hlo : -2 ^ 63 ≤ n) (hhi : n < 2 ^ 63) :
    readInt (toString n) = (n, none) := by
  have hp : Nat.pow 2 63 = 2 ^ 63 := rfl
  cases n with
  | ofNat m =>
    rw [Int.ofNat_eq_natCast] at hhi ⊢
    have htext : (toString (m : Int)).toList = Nat.toDigits 10 m := String.toList_ofList
    have hm : m < 2 ^ 63 := by omega
    simp only [readInt, htext, splitSign_toDigits, unsignedDigits_toDigits (by omega : m < 2 ^ 64),
      Bool.not_false, Bool.true_and, hp, decide_eq_true_eq, Bool.false_and, Bool.false_eq_true,
      if_false, Nat.not_le.2 hm]
  | negSucc m =>
    have htext : (toString (Int.negSucc m)).toList = '-' :: Nat.toDigits 10 (m + 1) := by
      show (String.ofList ['-'] ++ String.ofList (Nat.toDigits 10 (m + 1))).toList = _
      rw [String.toList_append, String.toList_ofList, String.toList_ofList]
      rfl
    have hm : m + 1 ≤ 2 ^ 63 := by omega
    simp only [readInt, htext, splitSign.eq_1, unsignedDigits_toDigits (by omega : m + 1 < 2 ^ 64),
      Bool.not_true, Bool.false_and, Bool.false_eq_true, if_false, Bool.true_and, hp,
      decide_eq_true_eq, gt_iff_lt, Nat.not_lt.2 hm, if_true]
    rfl

/-- The integer reader gives only integers of 64 bits. -/
theorem readInt_range (s : String) : -2 ^ 63 ≤ (readInt s).1 ∧ (readInt s).1 < 2 ^ 63 := by
  have hq : Nat.pow 2 63 = 2 ^ 63 := rfl
  unfold readInt
  rcases splitSign s.toList with ⟨neg, digits⟩
  dsimp only
  rcases unsignedDigits digits with _ | _ | n
  · dsimp only
    decide
  · dsimp only
    cases neg <;> simp
  · dsimp only
    split
    · simp
    · rename_i hbig
      split
      · simp
      · rename_i hsmall
        cases neg
        · simp only [Bool.not_false, Bool.true_and, decide_eq_true_eq, hq] at hbig
          simp only [Bool.false_eq_true, if_false]
          omega
        · simp only [Bool.true_and, decide_eq_true_eq, gt_iff_lt, hq] at hsmall
          simp only [if_true]
          omega

/-- A boolean written as `true` or `false` reads back. -/
theorem readBool_show (b : Bool) : readBool (if b then "true" else "false") = (b, none) := by
  cases b <;> rfl

end NetFleet.Text

namespace NetFleet.Settings

open Text

/-! ### What every setting keeps -/

/-- What the settings keep under every change: the numbers they hold are of 64
bits, and the set id is normalized. -/
structure Agent.Sane (s : Agent) : Prop where
  timeout : -2 ^ 63 ≤ (s.timeout : Int) ∧ (s.timeout : Int) < 2 ^ 63
  redisDb : -2 ^ 63 ≤ s.redisDb ∧ s.redisDb < 2 ^ 63
  devicePort : -2 ^ 63 ≤ s.devicePort ∧ s.devicePort < 2 ^ 63
  netdbId : Column.normalizeSetId s.netdbId = s.netdbId

theorem Agent.sane_default : ({} : Agent).Sane where
  timeout := by decide
  redisDb := by decide
  devicePort := by decide
  netdbId := if_pos (Or.inl rfl)

theorem zero_range : -2 ^ 63 ≤ (0 : Int) ∧ (0 : Int) < 2 ^ 63 := by decide

/-- Every setting keeps the settings sane, refused or not: each reader gives
only such values. -/
theorem Agent.Sane.set {s : Agent} (hs : s.Sane) (key value : String) : (s.set key value).1.Sane := by
  unfold Agent.set
  split
  case h_1 => exact ⟨hs.timeout, hs.redisDb, hs.devicePort, Column.normalizeSetId_normalizeSetId value⟩
  case h_6 =>
    split
    · rename_i d hd
      exact ⟨read_range hd, hs.redisDb, hs.devicePort, hs.netdbId⟩
    · -- a refused duration leaves zero
      exact ⟨zero_range, hs.redisDb, hs.devicePort, hs.netdbId⟩
  case h_10 => exact ⟨hs.timeout, readInt_range value, hs.devicePort, hs.netdbId⟩
  case h_12 => exact ⟨hs.timeout, hs.redisDb, readInt_range value, hs.netdbId⟩
  all_goals exact ⟨hs.timeout, hs.redisDb, hs.devicePort, hs.netdbId⟩

/-- The settings after a sequence of changes, each applied whether it was
refused or not. -/
def Agent.setAll (s : Agent) (changes : List (String × String)) : Agent :=
  changes.foldl (fun s kv => (s.set kv.1 kv.2).1) s

theorem Agent.Sane.setAll {s : Agent} (hs : s.Sane) (changes : List (String × String)) :
    (s.setAll changes).Sane := by
  induction changes generalizing s with
  | nil => exact hs
  | cons kv rest ih => exact ih (hs.set kv.1 kv.2)

/-! ### Reading back -/

/-- In sane settings, every key but the password reads as a text that sets it
back with no change and no refusal. -/
theorem Agent.Sane.get_set {s : Agent} (hs : s.Sane) {k : String} (hk : k ∈ keys)
    (hp : k ≠ "device.password") : ∃ t, s.get k = .ok t ∧ s.set k t = (s, none) := by
  simp only [keys, List.mem_cons, List.not_mem_nil, or_false] at hk
  -- the keys in order; those that take any text store it as it is
  rcases hk with rfl | rfl | rfl | rfl | rfl | rfl | rfl | rfl | rfl | rfl | rfl | rfl | rfl | rfl |
    rfl | rfl
  · exact ⟨_, rfl, rfl⟩
  · exact ⟨_, rfl, rfl⟩
  · exact ⟨_, rfl, rfl⟩
  · exact absurd rfl hp
  · -- `device.port` in decimal
    refine ⟨_, Agent.get.eq_12 s, ?_⟩
    rw [Agent.set.eq_12, readInt_toString hs.devicePort.1 hs.devicePort.2]
    rfl
  · exact ⟨_, rfl, rfl⟩
  · exact ⟨_, rfl, rfl⟩
  · -- `netdb.id`, normalized again
    refine ⟨_, Agent.get.eq_1 s, ?_⟩
    rw [Agent.set.eq_1, hs.netdbId]
  · exact ⟨_, rfl, rfl⟩
  · -- `netdb.timeout` as a duration
    refine ⟨_, Agent.get.eq_6 s, ?_⟩
    rw [Agent.set.eq_6, read_show hs.timeout.1 hs.timeout.2]
  · exact ⟨_, rfl, rfl⟩
  · exact ⟨_, rfl, rfl⟩
  · -- `netdb_local.enabled` as `true` or `false`
    refine ⟨_, Agent.get.eq_7 s, ?_⟩
    rw [Agent.set.eq_7, readBool_show]
    rfl
  · exact ⟨_, rfl, rfl⟩
  · exact ⟨_, rfl, rfl⟩
  · -- `redis.db` in decimal
    refine ⟨_, Agent.get.eq_10 s, ?_⟩
    rw [Agent.set.eq_10, readInt_toString hs.redisDb.1 hs.redisDb.2]
    rfl

/-- Settings read back. In the settings reached from the defaults by any
sequence of settings, refused ones included, every key but the password reads
as a text that sets it back with no change and no refusal: integers in decimal,
booleans as `true` or `false`, durations of any 64-bit count of nanoseconds as
`Duration.show` writes them, and the set id as it was normalized. -/
theorem settings_read_back (changes : List (String × String)) (k : String) (hk : k ∈ keys)
    (hp : k ≠ "device.password") :
    ∃ t, (({} : Agent).setAll changes).get k = .ok t ∧
      (({} : Agent).setAll changes).set k t = (({} : Agent).setAll changes, none) :=
  (Agent.sane_default.setAll changes).get_set hk hp

/-- After a timeout and a set id are set, the timeout reads back. -/
theorem settings_read_back_timeout :
    "netdb.timeout" ∈ keys ∧ "netdb.timeout" ≠ "device.password" ∧
      ∃ t, (({} : Agent).setAll [("netdb.timeout", "1h2m3.5s"), ("netdb.id", "sin1")]).get
          "netdb.timeout" = .ok t ∧
        (({} : Agent).setAll [("netdb.timeout", "1h2m3.5s"), ("netdb.id", "sin1")]).set "netdb.timeout" t =
          (({} : Agent).setAll [("netdb.timeout", "1h2m3.5s"), ("netdb.id", "sin1")], none) :=
  have hk : "netdb.timeout" ∈ keys := by decide
  have hp : "netdb.timeout" ≠ "device.password" := by decide
  ⟨hk, hp, settings_read_back _ _ hk hp⟩

end NetFleet.Settings
