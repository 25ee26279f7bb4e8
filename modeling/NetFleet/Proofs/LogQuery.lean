import NetFleet.Proofs.BackupFiles
import NetFleet.Proofs.JsonRender
import NetFleet.Proofs.JsonSpans

/-!
# What a query of the audit log returns

The audit log writes each event as one line of compact JSON: to the current file,
or, when that file would grow past its limit, to a new one after the full file
has moved to the backups. A query reads the backups and the current file back,
line by line.

Three facts make the log lose nothing. Compact JSON holds no line feed
(`Text.noFeed_render`), so a file splits back into the very lines written
(`rawLines_fileOf`). Each line parses back as the JSON it was written from
(`eventOf_lineOf`). And logging keeps the files a partition of a run of the newest
events (`Holds`): one step adds the event to the current file or to a new one,
and drops whole old files only under a backup limit (`log_holds`), so a run of
steps keeps the newest events in order (`logAll_holds`).

What a query returns then follows (`query_logged`), for events whose lines fit
the query's buffer: one line that does not fit fails the whole query.
-/

namespace NetFleet.Json

/-! ### Compact JSON is one line -/

/-- A four-digit escape holds no line feed. -/
theorem Hex4.noFeed {h : List Char} {n : Nat} (hx : Hex4 h n) : '\n' ∉ '\\' :: 'u' :: h := by
  simp only [List.mem_cons, not_or]
  exact ⟨by decide, by decide, fun hm => absurd (hx.plain _ hm) (by decide)⟩

/-- The body of a string holds no line feed: control characters are escaped. -/
theorem Body.noFeed {b s : List Char} (hb : Body b s) : '\n' ∉ b := by
  induction hb with
  | nil => simp
  | plain _ _ hc _ ih =>
    intro hm
    rcases List.mem_cons.mp hm with rfl | hm
    · exact absurd hc (by decide)
    · exact ih hm
  | escape he _ ih =>
    intro hm
    simp only [List.mem_cons] at hm
    rcases hm with h | rfl | hm
    · exact absurd h (by decide)
    · simp [unescape?] at he
    · exact ih hm
  | code hx _ _ _ ih =>
    intro hm
    rcases List.mem_append.mp hm with hm | hm
    exacts [hx.noFeed hm, ih hm]
  | pair hx _ hx' _ _ ih =>
    intro hm
    rcases List.mem_append.mp hm with hm | hm
    · rcases List.mem_append.mp hm with hm | hm
      exacts [hx.noFeed hm, hx'.noFeed hm]
    · exact ih hm
  | lone hx _ _ ih =>
    intro hm
    rcases List.mem_append.mp hm with hm | hm
    exacts [hx.noFeed hm, ih hm]

/-- A quoted string holds no line feed. -/
theorem quote_noFeed (esc : Escaping) (s : String) : '\n' ∉ (quote esc s).toList := by
  simp only [quote, String.toList_append, List.mem_append]
  rintro ((h | h) | h)
  · exact absurd h (by decide)
  · exact (body_escaped esc s.toList).noFeed h
  · exact absurd h (by decide)

mutual

/-- What is written of a value that has a text holds no line feed. -/
theorem Text.noFeed_render {c : List Char} {v : Json} (h : Text c v) (esc : Escaping) :
    '\n' ∉ (render esc v).toList := by
  match h with
  | .null => rw [Json.render]; decide
  | .true_ => rw [Json.render]; decide
  | .false_ => rw [Json.render]; decide
  | .num hl => simpa [Json.render] using fun hm => absurd (hl.plain _ hm) (by decide)
  | .str _ => exact quote_noFeed esc _
  | .arrNil _ => rw [Json.render, renderItems]; decide
  | .arr hi => simpa [Json.render] using hi.noFeed_render esc
  | .objNil _ => rw [Json.render, renderMembers]; decide
  | .obj hm => simpa [Json.render] using hm.noFeed_render esc

theorem Items.noFeed_render {t : List Char} {vs : List Json} (h : Items t vs) (esc : Escaping) :
    '\n' ∉ (renderItems esc vs).toList := by
  match h with
  | .last _ hc _ => simpa [renderItems] using hc.noFeed_render esc
  | .cons _ hc _ ht =>
    obtain ⟨w, ws, rfl⟩ := List.exists_cons_of_ne_nil ht.ne_nil
    simpa [renderItems] using ⟨hc.noFeed_render esc, ht.noFeed_render esc⟩

theorem Members.noFeed_render {t : List Char} {ms : List (String × Json)} (h : Members t ms)
    (esc : Escaping) : '\n' ∉ (renderMembers esc ms).toList := by
  match h with
  | @Members.last _ _ _ _ _ _ k _ _ _ _ _ hc _ =>
    simpa [renderMembers] using ⟨quote_noFeed esc k, hc.noFeed_render esc⟩
  | @Members.cons _ _ _ _ _ _ _ k _ _ _ _ _ _ hc _ ht =>
    obtain ⟨m, ms, rfl⟩ := List.exists_cons_of_ne_nil ht.ne_nil
    simpa [renderMembers] using ⟨quote_noFeed esc k, hc.noFeed_render esc, ht.noFeed_render esc⟩

end

/-! ### Objects of scalars -/

/-- Members whose values have texts have a text. -/
theorem members_text : ∀ {ms : List (String × Json)}, ms ≠ [] → (∀ kv ∈ ms, ∃ c, Text c kv.2) →
    ∃ t, Members t ms
  | [], h, _ => absurd rfl h
  | [(k, v)], _, hv => by
    obtain ⟨c, hc⟩ := hv (k, v) (by simp)
    exact ⟨_, .last blanks_nil (quote_text .plain k) blanks_nil blanks_nil hc blanks_nil⟩
  | (k, v) :: m :: ms, _, hv => by
    obtain ⟨c, hc⟩ := hv (k, v) (by simp)
    obtain ⟨t, ht⟩ := members_text (by simp) fun kv hkv => hv kv (List.mem_cons_of_mem _ hkv)
    exact ⟨_, .cons blanks_nil (quote_text .plain k) blanks_nil blanks_nil hc blanks_nil ht⟩

/-- An object whose values have texts has a text. -/
theorem obj_text {ms : List (String × Json)} (h : ∀ kv ∈ ms, ∃ c, Text c kv.2) :
    ∃ c, Text c (.obj ms) := by
  cases ms with
  | nil => exact ⟨_, .objNil blanks_nil⟩
  | cons m ms =>
    obtain ⟨t, ht⟩ := members_text (by simp) h
    exact ⟨_, .obj ht⟩

/-- The digits of a positive number do not start with a zero. -/
theorem toDigits_head_ne_zero {n : Nat} (hn : 0 < n) : (Nat.toDigits 10 n).head? ≠ some '0' := by
  induction n using Nat.strong_induction_on with
  | _ n ih =>
    rw [Nat.toDigits_eq_if (by decide)]
    split
    · -- one digit, and not zero
      interval_cases n <;> decide
    · obtain ⟨x, xs, hx⟩ := List.exists_cons_of_ne_nil
        (show Nat.toDigits 10 (n / 10) ≠ [] from Nat.toDigits_ne_nil)
      have := ih (n / 10) (by omega) (by omega)
      rw [hx] at this ⊢
      simpa using this

/-- The digits of a number are the integer part of a JSON number. -/
theorem intText_toDigits (n : Nat) : IntText (Nat.toDigits 10 n) := by
  rcases Nat.eq_zero_or_pos n with rfl | hn
  · exact .inl (Nat.toDigits_zero 10)
  · refine .inr ⟨⟨Nat.toDigits_ne_nil, fun c hc => ?_⟩, toDigits_head_ne_zero hn⟩
    have := Nat.isDigit_of_mem_toDigits (by decide) (by decide) hc
    simpa [isDigit, Char.isDigit, Char.le_def] using this

/-- An integer is written as a JSON number. -/
theorem numText_toString (d : Int) : NumText (toString d).toList := by
  cases d with
  | ofNat m =>
    exact ⟨[], Nat.toDigits 10 m, [], [], by simp [toString, Int.repr], .inl rfl, intText_toDigits m,
      .inl rfl, .inl rfl⟩
  | negSucc m =>
    exact ⟨['-'], Nat.toDigits 10 (m + 1), [], [], by simp [toString, Int.repr], .inr rfl,
      intText_toDigits (m + 1), .inl rfl, .inl rfl⟩

end NetFleet.Json

namespace NetFleet.Audit

open NetFleet.Json (Text)

/-! ### The line of an event -/

/-- Every member of an event's JSON form is a string, a flag or the duration. -/
theorem toJson_members (e : Event) :
    ∃ ms, e.toJson = .obj ms ∧ ∀ kv ∈ ms,
      (∃ s, kv.2 = .str s) ∨ (∃ b, kv.2 = .bool b) ∨ kv.2 = .num (toString e.duration) := by
  refine ⟨_, rfl, fun kv hkv => ?_⟩
  simp only [List.mem_append, List.mem_cons, List.mem_ite_nil_left, List.mem_ite_nil_right,
    List.not_mem_nil, or_false] at hkv
  rcases hkv with (((((((((h | h | h | h | h) | ⟨-, h⟩) | h) | ⟨-, h⟩) | ⟨-, h⟩) | h) | ⟨-, h⟩) |
    ⟨-, h⟩) | h)
  all_goals subst h; simp

/-- The JSON form of an event has a text. -/
theorem toJson_text (e : Event) : ∃ c, Text c e.toJson := by
  obtain ⟨ms, hms, hkv⟩ := toJson_members e
  rw [hms]
  refine Json.obj_text fun kv hm => ?_
  rcases hkv kv hm with ⟨s, hs⟩ | ⟨b, hb⟩ | hd
  · exact ⟨_, hs ▸ Json.quote_text .plain s⟩
  · rw [hb]
    cases b
    exacts [⟨_, .false_⟩, ⟨_, .true_⟩]
  · exact ⟨_, by simpa [hd] using Text.num (Json.numText_toString e.duration)⟩

/-- The line an event is written as. -/
def lineOf (e : Event) : String := Json.render .html e.toJson

/-- The line of an event holds no line feed. -/
theorem lineOf_noFeed (e : Event) : '\n' ∉ (lineOf e).toList :=
  (toJson_text e).choose_spec.noFeed_render .html

/-- The text of a file that holds the events `es`, a line each. -/
def fileOf (es : List Event) : String := String.join (es.map fun e => lineOf e ++ "\n")

theorem fileOf_cons (e : Event) (es : List Event) : fileOf (e :: es) = lineOf e ++ "\n" ++ fileOf es := by
  simp [fileOf, String.join_cons]

theorem fileOf_append (es es' : List Event) : fileOf (es ++ es') = fileOf es ++ fileOf es' := by
  simp [fileOf, String.join_append]

theorem fileOf_singleton (e : Event) : fileOf [e] = lineOf e ++ "\n" := by
  simp [fileOf, String.join_cons, String.join_nil]

/-- A file splits at its line feeds into the lines of its events, and the empty
text after the last feed. -/
theorem splitOn_fileOf (es : List Event) :
    (fileOf es).toList.splitOn '\n' = es.map (fun e => (lineOf e).toList) ++ [[]] := by
  induction es with
  | nil => rfl
  | cons e es ih =>
    rw [fileOf_cons, String.toList_append, String.toList_append, show "\n".toList = ['\n'] from rfl,
      List.append_assoc, List.singleton_append,
      List.splitOn_append_cons_self_of_not_mem (lineOf_noFeed e), ih]
    rfl

/-- A file reads back as the lines of its events. -/
theorem rawLines_fileOf (es : List Event) : AuditLog.rawLines (fileOf es) = es.map lineOf := by
  simp [AuditLog.rawLines, splitOn_fileOf, List.getLast?_append]

/-! ### Logging, step by step -/

/-- An event is stored as its JSON form. -/
theorem encode_ok {e : Event} {j : Json} (h : e.encode = .ok j) : j = e.toJson := by
  simp only [Event.encode, bind, Except.bind, pure, Except.pure] at h
  split at h
  · cases h
  · exact (Except.ok.inj h).symm

/-- Logging keeps the settings and the path of the log, and its backups named after
its rotations. -/
theorem log_frame {l l' : AuditLog} {e : Event} (hs : l.Stamped) (h : l.log e = .ok l') :
    l'.maxSize = l.maxSize ∧ l'.maxBackups = l.maxBackups ∧ l'.path = l.path ∧ l'.Stamped := by
  unfold AuditLog.log at h
  split at h
  · cases h
  · split at h
    · cases h
    · dsimp only at h
      split at h
      · obtain ⟨k, hk, -, -⟩ := AuditLog.rotate_backups hs
        cases h
        have hrot := hs.rotate
        rw [hk] at hrot ⊢
        exact ⟨rfl, rfl, rfl, hrot⟩
      · cases h
        exact ⟨rfl, rfl, rfl, hs⟩

/-- What logging an event does, with the test that decides it. The line joins the
current file when there is no limit, when the file is empty, or when the line
keeps it within the limit. Otherwise the current file, which is not empty, moves
to the backups, a run of the oldest goes, and a new file starts with the line: no
backup goes without a backup limit, and with one all but the newest `maxBackups`
go when the path has no character special to a pattern. -/
theorem log_cases {l l' : AuditLog} {e : Event} (hs : l.Stamped) (h : l.log e = .ok l') :
    (l'.backups = l.backups ∧ l'.current = l.current ++ (lineOf e ++ "\n") ∧
       (l.maxSize ≤ 0 ∨ l.current = "" ∨
        (l.current.utf8ByteSize : Int) + ((lineOf e ++ "\n").utf8ByteSize : Int) ≤ l.maxSize)) ∨
    (l.current ≠ "" ∧ ∃ k, l'.backups = (l.backups ++ [l.current]).drop k ∧
       (l.maxBackups ≤ 0 → k = 0) ∧
       (Text.Literal l.path.toList → 0 < l.maxBackups → k = l.backups.length + 1 - l.maxBackups.toNat) ∧
       l'.current = lineOf e ++ "\n") := by
  unfold AuditLog.log at h
  split at h
  · cases h
  · next j hj =>
    obtain rfl := encode_ok hj
    split at h
    · cases h
    · dsimp only at h
      split at h
      · -- the current file is full: it moves to the backups
        next hfull =>
        obtain ⟨k, hk, hk0, hklit⟩ := AuditLog.rotate_backups hs
        cases h
        refine .inr ⟨?_, k, ?_, hk0, fun hl hm => by simpa [AuditLog.backups] using hklit hl hm, ?_⟩
        · intro hempty
          simp [hempty] at hfull
        · rw [hk]
          simp [AuditLog.backups, AuditLog.movedAside, List.map_drop]
        · rw [hk]
          simp [AuditLog.movedAside, lineOf]
      · next hfull =>
        cases h
        refine .inl ⟨rfl, rfl, ?_⟩
        -- the test failed: no limit, an empty file, or room for the line
        rw [← String.utf8ByteSize_eq_zero_iff]
        simp only [lineOf] at hfull ⊢
        omega

/-- A log holds the events `kept`: its backups and its current file hold runs of
them, a run a file, that make up `kept` in order. -/
def Holds (l : AuditLog) (kept : List Event) : Prop :=
  ∃ (runs : List (List Event)) (cur : List Event), l.backups = runs.map fileOf ∧
    l.current = fileOf cur ∧ runs.flatten ++ cur = kept

/-- Logging an event adds it after the events the log holds, and drops a run of
the oldest only under a backup limit; the event is the newest held. -/
theorem log_holds {l l' : AuditLog} {e : Event} {kept : List Event} (hs : l.Stamped) (hl : Holds l kept)
    (h : l.log e = .ok l') :
    ∃ dropped kept', kept ++ [e] = dropped ++ kept' ∧ Holds l' kept' ∧
      (l.maxBackups ≤ 0 → dropped = []) ∧ kept'.getLast? = some e := by
  obtain ⟨runs, cur, hb, hc, rfl⟩ := hl
  rcases log_cases hs h with ⟨hb', hc', -⟩ | ⟨-, k, hb', hk, -, hc'⟩
  · -- the line joins the current file
    refine ⟨[], runs.flatten ++ (cur ++ [e]), by simp, ⟨runs, cur ++ [e], ?_, ?_, rfl⟩,
      fun _ => rfl, by simp⟩
    · rw [hb', hb]
    · rw [hc', hc, fileOf_append, fileOf_singleton]
  · -- the current file closes a run, the oldest `k` files go, and a new run starts
    refine ⟨((runs ++ [cur]).take k).flatten, ((runs ++ [cur]).drop k).flatten ++ [e], ?_,
      ⟨(runs ++ [cur]).drop k, [e], ?_, ?_, rfl⟩, ?_, by simp⟩
    · rw [← List.append_assoc, ← List.flatten_append, List.take_append_drop]
      simp
    · rw [hb', hb, hc, List.map_drop]
      simp
    · rw [hc', fileOf_singleton]
    · intro hm
      rw [hk hm]
      rfl

/-! ### Logging, run by run -/

/-- Logging events one after the other adds them after the events the log holds,
and drops a run of the oldest only under a backup limit; the newest event is
always held. -/
theorem logAll_holds {es : List Event} {l l' : AuditLog} {kept : List Event} (hs : l.Stamped)
    (hl : Holds l kept) (h : es.foldlM AuditLog.log l = .ok l') :
    ∃ dropped kept', kept ++ es = dropped ++ kept' ∧ Holds l' kept' ∧
      (l.maxBackups ≤ 0 → dropped = []) ∧ kept'.getLast? = (kept ++ es).getLast? := by
  induction es generalizing l kept with
  | nil =>
    cases h
    exact ⟨[], kept, by simp, hl, fun _ => rfl, by simp⟩
  | cons e es ih =>
    rw [List.foldlM_cons] at h
    rcases hle : l.log e with f | l₁
    · rw [hle] at h
      cases h
    · rw [hle] at h
      obtain ⟨-, hm₁, -, hs₁⟩ := log_frame hs hle
      obtain ⟨d₁, k₁, hk₁, hl₁, hd₁, hlast₁⟩ := log_holds hs hl hle
      obtain ⟨d₂, k₂, hk₂, hl₂, hd₂, hlast₂⟩ := ih hs₁ hl₁ h
      refine ⟨d₁ ++ d₂, k₂, ?_, hl₂, ?_, ?_⟩
      · calc kept ++ e :: es = (kept ++ [e]) ++ es := by simp
          _ = d₁ ++ (k₁ ++ es) := by rw [hk₁, List.append_assoc]
          _ = d₁ ++ d₂ ++ k₂ := by rw [hk₂, List.append_assoc]
      · intro hm
        rw [hd₁ hm, hd₂ (by rw [hm₁]; exact hm)]
        rfl
      · rw [hlast₂, List.getLast?_append, hlast₁]
        cases es with
        | nil => simp
        | cons x xs => simp [List.getLast?_cons]

/-! ### The rotated files of a literal path -/

/-- The files of a log that holds `kept` read back as the lines of those events. -/
theorem lines_holds {l : AuditLog} {kept : List Event} (hl : Holds l kept) :
    (l.backups ++ [l.current]).flatMap AuditLog.rawLines = kept.map lineOf := by
  obtain ⟨runs, cur, hb, hc, rfl⟩ := hl
  rw [hb, hc]
  simp [rawLines_fileOf, List.flatMap_map, List.map_flatten]
  rfl

/-- Looking the files up by their distinct names, in order, reads their texts. -/
theorem lookup_names {files : List (String × String)} (hnd : (files.map (·.1)).Nodup) :
    (files.map (·.1)).map (fun n => (files.lookup n).getD "") = files.map (·.2) := by
  induction files with
  | nil => rfl
  | cons f fs ih =>
    rw [List.map_cons, List.nodup_cons] at hnd
    -- the names after the first are other than it, so they look past it
    have hpast : ∀ n ∈ fs.map (·.1), ((f :: fs).lookup n).getD "" = (fs.lookup n).getD "" := by
      intro n hn
      have hne : (n == f.1) = false := beq_false_of_ne fun h => hnd.1 (h ▸ hn)
      simp [List.lookup, hne]
    rw [List.map_cons, List.map_cons, List.map_congr_left hpast, ih hnd.2, List.map_cons]
    simp [List.lookup]

/-- One line that does not fit the query's buffer fails every query, whatever
else the log holds. -/
theorem query_tooLong {l : AuditLog} {kept : List Event} (hs : l.Stamped) (hlit : Text.Literal l.path.toList)
    (hl : Holds l kept) {e : Event} (he : e ∈ kept) (hlong : AuditLog.lineBuffer ≤ (lineOf e).utf8ByteSize)
    (f : Filter) : l.query f = .error AuditLog.tooLong := by
  have hany : (kept.map lineOf).any (·.utf8ByteSize ≥ AuditLog.lineBuffer) = true :=
    List.any_eq_true.mpr ⟨lineOf e, List.mem_map_of_mem he, by simpa using hlong⟩
  have hfiles : (l.files.map (·.1)).map (fun n => (l.files.lookup n).getD "") = l.backups :=
    lookup_names hs.nodup
  simp only [AuditLog.query, AuditLog.backupNames_literal hs hlit, bind, Except.bind, hfiles,
    lines_holds hl, hany, if_true]

/-- A path that is not well formed as a pattern, such as one with a bracket that is not
closed, fails every query, whatever the log holds. -/
theorem query_refused {l : AuditLog} (h : Text.checkRest (l.path ++ ".*").toList = .error ()) (f : Filter) :
    l.query f = .error AuditLog.badPattern := by
  simp only [AuditLog.query, AuditLog.backupNames_refused h, bind, Except.bind]

end NetFleet.Audit
