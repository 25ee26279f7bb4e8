import NetFleet.Audit.Log
import NetFleet.Proofs.GlobMatch
import Mathlib

/-!
# The backups of the audit log

The audit log names the backup of its `n`-th rotation by its path, a dot and the
stamp of `n`, and finds its backups again as the names that the path followed by
`.*` matches as a pattern, sorted. This module shows that this finds what the log
moved aside, in order:

* stamps sort as the rotations were made (`stampOf_lt`) and hold no dot, star or
  separator (`stampOf_unmarked`), so the pattern lists all the backups, oldest
  first, or none of them, unless it refuses the path (`backupNames_cases`); it lists
  them all when the path has no character special to a pattern
  (`backupNames_literal`);
* a rotation moves the current file aside as the newest backup and drops a run of
  the oldest (`rotate_backups`): under a backup limit and with such a path, all but
  the newest `maxBackups`.

`Stamped` is the invariant that carries this: the files beside the current one are
named after earlier rotations, in their order.
-/

namespace NetFleet.Audit.AuditLog

open Text

/-! ### Stamps -/

theorem digit_toNat {d : Nat} (hd : d < 10) : (Char.ofNat (48 + d)).toNat = 48 + d := by
  rw [Char.toNat_ofNat, if_pos (Or.inl (by omega))]

theorem digit_lt {a b : Nat} (hab : a < b) (hb : b < 10) : Char.ofNat (48 + a) < Char.ofNat (48 + b) := by
  have ha := digit_toNat (show a < 10 by omega)
  have hb := digit_toNat hb
  rw [Char.lt_def, UInt32.lt_iff_toNat_lt]
  simp only [Char.toNat] at ha hb
  omega

theorem mem_fixedDigits {w n : Nat} {c : Char} (h : c ∈ fixedDigits w n) :
    ∃ d < 10, c = Char.ofNat (48 + d) := by
  induction w with
  | zero => simp [fixedDigits] at h
  | succ w ih =>
    rcases List.mem_cons.mp h with rfl | h
    · exact ⟨_, Nat.mod_lt _ (by decide), rfl⟩
    · exact ih h

/-- Fixed-width digits are ordered as the numbers they write. -/
theorem fixedDigits_lt (w : Nat) {n m : Nat} (h : n % Nat.pow 10 w < m % Nat.pow 10 w) :
    fixedDigits w n < fixedDigits w m := by
  induction w generalizing n m with
  | zero => simp [Nat.mod_one] at h
  | succ w ih =>
    rw [fixedDigits, fixedDigits, List.cons_lt_cons_iff]
    have hP : 0 < Nat.pow 10 w := by rw [Nat.pow_eq]; positivity
    have hn : n % Nat.pow 10 (w + 1) = n % Nat.pow 10 w + Nat.pow 10 w * (n / Nat.pow 10 w % 10) := by
      simpa only [Nat.pow_eq] using Nat.mod_pow_succ (x := n) (b := 10) (k := w)
    have hm : m % Nat.pow 10 (w + 1) = m % Nat.pow 10 w + Nat.pow 10 w * (m / Nat.pow 10 w % 10) := by
      simpa only [Nat.pow_eq] using Nat.mod_pow_succ (x := m) (b := 10) (k := w)
    have hn' := Nat.mod_lt n hP
    have hm' := Nat.mod_lt m hP
    rcases Nat.lt_trichotomy (n / Nat.pow 10 w % 10) (m / Nat.pow 10 w % 10) with hab | hab | hab
    · exact .inl (digit_lt hab (Nat.mod_lt _ (by decide)))
    · refine .inr ⟨by rw [hab], ih ?_⟩
      rw [hab] at hn
      omega
    · -- a larger leading digit makes a larger number
      have := Nat.mul_le_mul_left (Nat.pow 10 w) (Nat.succ_le_of_lt hab)
      rw [Nat.mul_succ] at this
      omega

/-- Later rotations have later stamps. -/
theorem stampOf_lt {n m : Nat} (h : n < m) : stampOf n < stampOf m := by
  rw [String.lt_iff_toList_lt]
  simp only [stampOf, String.toList_ofList]
  have hP : 0 < Nat.pow 10 23 := by decide
  have hn := Nat.div_add_mod n (Nat.pow 10 23)
  have hm := Nat.div_add_mod m (Nat.pow 10 23)
  have hle : n / Nat.pow 10 23 ≤ m / Nat.pow 10 23 := Nat.div_le_div_right h.le
  rcases Nat.eq_or_lt_of_le hle with hab | hab
  · -- as many tildes: the digits decide
    rw [hab]
    refine List.append_left_lt (fixedDigits_lt 23 ?_)
    rw [hab] at hn
    omega
  · -- fewer tildes: a digit stands where the later stamp has a tilde
    obtain ⟨k, hk⟩ := Nat.exists_eq_add_of_lt hab
    rw [show m / Nat.pow 10 23 = n / Nat.pow 10 23 + (k + 1) by omega, List.replicate_add,
      List.append_assoc]
    apply List.append_left_lt
    rw [List.replicate_succ, List.cons_append, fixedDigits, List.cons_lt_cons_iff]
    left
    have hd := digit_toNat (Nat.mod_lt (n / Nat.pow 10 22) (show 0 < 10 by decide))
    rw [Char.lt_def, UInt32.lt_iff_toNat_lt]
    simp only [Char.toNat] at hd
    have h10 := Nat.mod_lt (n / Nat.pow 10 22) (show 0 < 10 by decide)
    rw [hd, show '~'.val.toNat = 126 from rfl]
    omega

theorem mem_stampOf {n : Nat} {c : Char} (h : c ∈ (stampOf n).toList) :
    c = '~' ∨ ∃ d < 10, c = Char.ofNat (48 + d) := by
  simp only [stampOf, String.toList_ofList, List.mem_append, List.mem_replicate] at h
  rcases h with ⟨-, rfl⟩ | h
  · exact .inl rfl
  · exact .inr (mem_fixedDigits h)

/-- A stamp is a tail that a pattern ending in `.*` cannot see. -/
theorem stampOf_unmarked (n : Nat) : Unmarked (stampOf n).toList := by
  have hnot : ∀ x : Char, x.toNat < 48 → x ≠ '~' → x ∉ (stampOf n).toList := by
    intro x hx hx' hmem
    rcases mem_stampOf hmem with h | ⟨d, hd, rfl⟩
    · exact hx' h
    · have := digit_toNat hd
      omega
  refine ⟨?_, hnot '.' (by decide) (by decide), hnot '*' (by decide) (by decide),
    hnot '/' (by decide) (by decide)⟩
  simp [stampOf, fixedDigits]

theorem backupName_toList (l : AuditLog) (n : Nat) :
    (l.backupName n).toList = l.path.toList ++ '.' :: (stampOf n).toList := by
  simp [backupName]

/-- Later rotations have later backup names. -/
theorem backupName_lt (l : AuditLog) {n m : Nat} (h : n < m) : l.backupName n < l.backupName m := by
  rw [String.lt_iff_toList_lt, backupName_toList, backupName_toList]
  exact List.append_left_lt (List.cons_lt_cons_iff.mpr (.inr ⟨rfl, String.lt_iff_toList_lt.mp (stampOf_lt h)⟩))

/-! ### The backups of a log -/

/-- The files beside the current one are backups of the log, oldest first: each is
named after an earlier rotation, in the order of the rotations. -/
def Stamped (l : AuditLog) : Prop :=
  ∃ ns : List Nat, l.files.map (·.1) = ns.map l.backupName ∧ ns.Pairwise (· < ·) ∧
    ∀ n ∈ ns, n < l.rotations

theorem Stamped.sorted {l : AuditLog} (hs : l.Stamped) :
    (l.files.map (·.1)).Pairwise fun a b => a < b := by
  obtain ⟨ns, hns, hpw, -⟩ := hs
  rw [hns, List.pairwise_map]
  exact hpw.imp fun h => backupName_lt l h

theorem Stamped.nodup {l : AuditLog} (hs : l.Stamped) : (l.files.map (·.1)).Nodup :=
  hs.sorted.imp ne_of_lt

/-- Each backup name is the path, a dot and a stamp. -/
theorem Stamped.name_toList {l : AuditLog} (hs : l.Stamped) {name : String}
    (h : name ∈ l.files.map (·.1)) : ∃ n, name.toList = l.path.toList ++ '.' :: (stampOf n).toList := by
  obtain ⟨ns, hns, -, -⟩ := hs
  rw [hns, List.mem_map] at h
  obtain ⟨n, -, rfl⟩ := h
  exact ⟨n, backupName_toList l n⟩

theorem pattern_toList (l : AuditLog) : (l.path ++ ".*").toList = l.path.toList ++ ['.', '*'] := by
  simp

/-- The backups of a log are listed all, oldest first, or none, unless the path is
refused as a pattern. -/
theorem backupNames_cases {l : AuditLog} (hs : l.Stamped) :
    l.backupNames = .error badPattern ∨ l.backupNames = .ok [] ∨
      l.backupNames = .ok (l.files.map (·.1)) := by
  have hn : ∀ name ∈ l.files.map (·.1), ∃ y, name.toList = (l.path.toList ++ ['.']) ++ y ∧ Unmarked y := by
    intro name hname
    obtain ⟨n, hn⟩ := hs.name_toList hname
    exact ⟨_, by simpa using hn, stampOf_unmarked n⟩
  have hsorted : ((l.files.map (·.1)).mergeSort fun a b => decide (a ≤ b)) = l.files.map (·.1) :=
    List.mergeSort_of_pairwise (hs.sorted.imp fun h => by simpa using le_of_lt h)
  unfold backupNames
  rcases glob_dotStar_all_or_none (pattern_toList l) hn with h | h | h <;> rw [h]
  · exact .inl rfl
  · exact .inr (.inl rfl)
  · exact .inr (.inr (by rw [hsorted]))

/-- With a path that has no character special to a pattern, the backups are listed,
oldest first. -/
theorem backupNames_literal {l : AuditLog} (hs : l.Stamped) (hl : Literal l.path.toList) :
    l.backupNames = .ok (l.files.map (·.1)) := by
  have hn : ∀ name ∈ l.files.map (·.1), ∃ y, name.toList = l.path.toList ++ '.' :: y ∧ '/' ∉ y := by
    intro name hname
    obtain ⟨n, hn⟩ := hs.name_toList hname
    exact ⟨_, hn, (stampOf_unmarked n).no_sep⟩
  have hsorted : ((l.files.map (·.1)).mergeSort fun a b => decide (a ≤ b)) = l.files.map (·.1) :=
    List.mergeSort_of_pairwise (hs.sorted.imp fun h => by simpa using le_of_lt h)
  unfold backupNames
  rw [glob_literal (pattern_toList l) hl hn, hsorted]

/-- A path that is not well formed as a pattern fails the listing of the backups. -/
theorem backupNames_refused {l : AuditLog} (h : checkRest (l.path ++ ".*").toList = .error ()) :
    l.backupNames = .error badPattern := by
  unfold backupNames glob
  rw [(matchName_eq_error_iff _ _).mpr h]

/-! ### Pruning and rotation -/

/-- Removing the files whose names are among the first `k` of distinct names removes
the first `k` files. -/
theorem filter_not_take {files : List (String × String)} (hnd : (files.map (·.1)).Nodup) (k : Nat) :
    files.filter (fun f => !((files.map (·.1)).take k).contains f.1) = files.drop k := by
  induction files generalizing k with
  | nil => simp
  | cons f fs ih =>
    rw [List.map_cons, List.nodup_cons] at hnd
    cases k with
    | zero => simp
    | succ k =>
      rw [List.map_cons, List.take_succ_cons, List.drop_succ_cons, List.filter_cons_of_neg (by simp)]
      rw [← ih hnd.2 k]
      refine List.filter_congr fun g hg => ?_
      have hne : g.1 ≠ f.1 := fun h => hnd.1 (h ▸ List.mem_map_of_mem hg)
      simp [hne]

/-- Pruning removes a run of the oldest backups. -/
theorem prune_eq {l : AuditLog} (hs : l.Stamped) : ∃ k, l.prune = { l with files := l.files.drop k } := by
  unfold prune
  rcases backupNames_cases hs with h | h | h <;> simp only [h]
  · exact ⟨0, by simp⟩
  · exact ⟨0, by split <;> simp⟩
  · split
    · exact ⟨0, by simp⟩
    · exact ⟨_, by rw [filter_not_take hs.nodup]⟩

/-- With a path that has no character special to a pattern, pruning keeps the newest
`maxBackups` backups. -/
theorem prune_literal {l : AuditLog} (hs : l.Stamped) (hl : Literal l.path.toList) :
    l.prune = { l with files := l.files.drop (l.files.length - l.maxBackups.toNat) } := by
  unfold prune
  rw [backupNames_literal hs hl]
  simp only [List.length_map]
  split
  · next hle =>
    have hk : l.files.length - l.maxBackups.toNat = 0 := by omega
    simp [hk]
  · rw [filter_not_take hs.nodup]

theorem Stamped.drop {l : AuditLog} (hs : l.Stamped) (k : Nat) :
    Stamped { l with files := l.files.drop k } := by
  obtain ⟨ns, hns, hpw, hlt⟩ := hs
  refine ⟨ns.drop k, ?_, hpw.sublist (List.drop_sublist k ns), fun n hn => hlt n (List.mem_of_mem_drop hn)⟩
  show List.map _ (List.drop k l.files) = List.map l.backupName (ns.drop k)
  rw [List.map_drop, hns, List.map_drop]

theorem Stamped.prune {l : AuditLog} (hs : l.Stamped) : l.prune.Stamped := by
  obtain ⟨k, hk⟩ := prune_eq hs
  rw [hk]
  exact hs.drop k

/-- The log right after its current file moved aside, before any pruning. -/
def movedAside (l : AuditLog) : AuditLog :=
  { l with files := l.files ++ [(l.backupName l.rotations, l.current)], current := "",
           rotations := l.rotations + 1 }

theorem Stamped.movedAside {l : AuditLog} (hs : l.Stamped) : l.movedAside.Stamped := by
  obtain ⟨ns, hns, hpw, hlt⟩ := hs
  refine ⟨ns ++ [l.rotations], ?_, ?_, ?_⟩
  · simp [AuditLog.movedAside, hns, backupName]
  · exact List.pairwise_append.mpr ⟨hpw, List.pairwise_singleton _ _, fun a ha b hb => by
      simp at hb; exact hb ▸ hlt a ha⟩
  · intro n hn
    simp only [List.mem_append, List.mem_singleton] at hn
    rcases hn with hn | rfl
    · exact Nat.lt_succ_of_lt (hlt n hn)
    · exact Nat.lt_succ_self _

/-- The name of the new backup is free: the other backups were made before. -/
theorem rotate_fresh {l : AuditLog} (hs : l.Stamped) :
    l.files.filter (·.1 != l.backupName l.rotations) = l.files := by
  obtain ⟨ns, hns, -, hlt⟩ := hs
  refine List.filter_eq_self.mpr fun f hf => ?_
  have hname : f.1 ∈ ns.map l.backupName := hns ▸ List.mem_map_of_mem hf
  obtain ⟨n, hn, hfn⟩ := List.mem_map.mp hname
  have := backupName_lt l (hlt n hn)
  rw [hfn] at this
  simpa using ne_of_lt this

theorem rotate_eq {l : AuditLog} (hs : l.Stamped) :
    l.rotate = if l.maxBackups > 0 then l.movedAside.prune else l.movedAside := by
  unfold rotate
  dsimp only
  rw [rotate_fresh hs]
  rfl

theorem Stamped.rotate {l : AuditLog} (hs : l.Stamped) : l.rotate.Stamped := by
  rw [rotate_eq hs]
  split
  · exact hs.movedAside.prune
  · exact hs.movedAside

/-- A rotation moves the current file aside as the newest backup and drops a run of the
oldest backups: none without a backup limit, and, with a path that has no character
special to a pattern, all but the newest `maxBackups`. -/
theorem rotate_backups {l : AuditLog} (hs : l.Stamped) :
    ∃ k, l.rotate = { l.movedAside with files := l.movedAside.files.drop k } ∧
      (l.maxBackups ≤ 0 → k = 0) ∧
      (Literal l.path.toList → 0 < l.maxBackups → k = l.files.length + 1 - l.maxBackups.toNat) := by
  rw [rotate_eq hs]
  split
  · next hpos =>
    by_cases hl : Literal l.path.toList
    · refine ⟨l.movedAside.files.length - l.maxBackups.toNat, prune_literal hs.movedAside hl,
        fun h => absurd hpos (by omega), fun _ _ => ?_⟩
      simp [movedAside]
    · obtain ⟨k, hk⟩ := prune_eq hs.movedAside
      exact ⟨k, hk, fun h => absurd hpos (by omega), fun h => absurd h hl⟩
  · next hpos =>
    exact ⟨0, by simp, fun _ => rfl, fun _ h => absurd h (by omega)⟩

end NetFleet.Audit.AuditLog
