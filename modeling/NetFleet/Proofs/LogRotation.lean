import NetFleet.Proofs.LogQuery

/-!
# The rotation bound of the audit log

With a positive size limit, the audit log moves its current file aside before a
line would take it past the limit, unless the file is still empty. So each file
of the log, the current one and every backup, is within the limit, or holds a
single event whose line alone is longer than the limit:

    (fileOf run).utf8ByteSize ≤ maxSize   ∨   run = [e]

One step keeps this (`log_withinLimit`): a line joins a file only when there is
room for it or the file is empty, and a rotation leaves the old files as they
were and starts a new one with the line. A run of steps keeps it
(`logAll_withinLimit`). Together with the partition of the logged events into
files (`Holds`, from the reading of the log) this gives `files_within_limit`.
-/

namespace NetFleet.Audit

/-- A file keeps the rotation bound: it is within `limit` bytes, or it holds the
line of a single event. -/
def WithinLimit (limit : Int) (file : String) : Prop :=
  (file.utf8ByteSize : Int) ≤ limit ∨ ∃ e, file = fileOf [e]

/-- Every file of a log, the backups and the current one, keeps the log's
rotation bound. -/
def AuditLog.FilesWithinLimit (l : AuditLog) : Prop :=
  ∀ file ∈ l.backups ++ [l.current], WithinLimit l.maxSize file

/-- A file that holds the line of one event holds that event alone. -/
theorem length_eq_one_of_fileOf {run : List Event} {e : Event} (h : fileOf run = fileOf [e]) :
    run.length = 1 := by
  have hlines := congrArg AuditLog.rawLines h
  rw [rawLines_fileOf, rawLines_fileOf] at hlines
  simpa using congrArg List.length hlines

/-- Logging one event keeps every file within the bound. -/
theorem log_withinLimit {l l' : AuditLog} {e : Event} (hst : l.Stamped) (hpos : 0 < l.maxSize)
    (hl : l.FilesWithinLimit) (h : l.log e = .ok l') : l'.FilesWithinLimit := by
  have hs := (log_frame hst h).1
  rcases log_cases hst h with ⟨hb, hc, hroom⟩ | ⟨-, k, hb, -, -, hc⟩
  · -- the line joins the current file: there was room, or the file was empty
    intro file hf
    rw [hb, hc, List.mem_append, List.mem_singleton] at hf
    rw [hs]
    rcases hf with hf | rfl
    · exact hl file (List.mem_append_left _ hf)
    rcases hroom with hneg | hempty | hfits
    · omega
    · exact .inr ⟨e, by rw [hempty, String.empty_append, fileOf_singleton]⟩
    · left
      rw [String.utf8ByteSize_append]
      push_cast
      exact hfits
  · -- a rotation: the old files stay as they were, the new one holds the line
    intro file hf
    rw [hb, hc, List.mem_append, List.mem_singleton] at hf
    rw [hs]
    rcases hf with hf | rfl
    · exact hl file (List.mem_of_mem_drop hf)
    · exact .inr ⟨e, by rw [fileOf_singleton]⟩

/-- Logging events one after the other keeps every file within the bound, which
stays as it was. -/
theorem logAll_withinLimit {es : List Event} {l l' : AuditLog} (hst : l.Stamped) (hpos : 0 < l.maxSize)
    (hl : l.FilesWithinLimit) (h : es.foldlM AuditLog.log l = .ok l') :
    l'.FilesWithinLimit ∧ l'.maxSize = l.maxSize := by
  induction es generalizing l with
  | nil =>
    cases h
    exact ⟨hl, rfl⟩
  | cons e es ih =>
    rw [List.foldlM_cons] at h
    rcases hle : l.log e with f | l₁
    · rw [hle] at h
      cases h
    · rw [hle] at h
      obtain ⟨hs₁, -, -, hst₁⟩ := log_frame hst hle
      obtain ⟨hw, hs⟩ := ih hst₁ (hs₁ ▸ hpos) (log_withinLimit hst hpos hl hle) h
      exact ⟨hw, hs.trans hs₁⟩

/-- The rotation bound of the audit log. Log events one after the other on a
fresh log with a positive size limit, each successfully. The files of the log,
the backups from the oldest and then the current file, hold runs of the logged
events, a line each; the runs make up every event logged but a run of the
oldest, which only a backup limit drops. Each file is within the size limit, or
holds a single event. -/
theorem files_within_limit (path : String) (maxSize maxBackups : Int) (hpos : 0 < maxSize)
    (es : List Event) (l : AuditLog)
    (hlog : es.foldlM AuditLog.log { path, maxSize, maxBackups } = .ok l) :
    ∃ (dropped : List Event) (runs : List (List Event)),
      es = dropped ++ runs.flatten ∧ (maxBackups ≤ 0 → dropped = []) ∧
      l.backups ++ [l.current] = runs.map fileOf ∧
      ∀ run ∈ runs, ((fileOf run).utf8ByteSize : Int) ≤ maxSize ∨ run.length = 1 := by
  have hstamped : AuditLog.Stamped { path, maxSize, maxBackups } := ⟨[], rfl, .nil, by simp⟩
  have hfresh : Holds { path, maxSize, maxBackups } [] := ⟨[], [], rfl, rfl, rfl⟩
  obtain ⟨dropped, kept, hk, ⟨runs, cur, hb, hc, hkept⟩, hd, -⟩ := logAll_holds hstamped hfresh hlog
  have hempty : AuditLog.FilesWithinLimit { path, maxSize, maxBackups } := by
    simp only [AuditLog.FilesWithinLimit, AuditLog.backups, List.map_nil, List.nil_append,
      List.mem_singleton, forall_eq]
    exact .inl (by simpa using hpos.le)
  obtain ⟨hw, hs⟩ := logAll_withinLimit hstamped hpos hempty hlog
  have hfiles : l.backups ++ [l.current] = (runs ++ [cur]).map fileOf := by
    rw [hb, hc, List.map_append, List.map_singleton]
  refine ⟨dropped, runs ++ [cur], ?_, hd, hfiles, ?_⟩
  · rw [List.nil_append] at hk
    rw [hk, ← hkept, List.flatten_append, List.flatten_singleton]
  · intro run hrun
    rcases hw (fileOf run) (hfiles ▸ List.mem_map_of_mem hrun) with hle | ⟨e, he⟩
    · rw [hs] at hle
      exact .inl hle
    · exact .inr (length_eq_one_of_fileOf he)

set_option maxRecDepth 20000 in
/-- Two events logged with a limit of one byte: the first file moves aside, and
each file holds one event. -/
theorem files_within_limit_one_byte :
    ∃ l, [({ id := "e1" } : Event), ({ id := "e2" } : Event)].foldlM AuditLog.log
        { path := "audit.log", maxSize := 1 } = .ok l ∧ (0 : Int) < 1 ∧
      ∃ (dropped : List Event) (runs : List (List Event)),
        [({ id := "e1" } : Event), ({ id := "e2" } : Event)] = dropped ++ runs.flatten ∧
        ((0 : Int) ≤ 0 → dropped = []) ∧ l.backups ++ [l.current] = runs.map fileOf ∧
        ∀ run ∈ runs, ((fileOf run).utf8ByteSize : Int) ≤ 1 ∨ run.length = 1 :=
  ⟨_, rfl, by decide, files_within_limit "audit.log" 1 0 (by decide) _ _ rfl⟩

end NetFleet.Audit
