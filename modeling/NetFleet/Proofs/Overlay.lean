import Mathlib
import NetFleet.Overlay.Entries

/-!
# Marks in the overlay

A router's list under a key is read through `Lists.entries` and changed through
`Lists.update`, which reads the same document again and writes the list a step
makes of it. The mark of an entry (`Lists.mark`) is such a change: it appends
the entry for a disable and removes its first occurrence for an enable.

So a mark that is written leaves the entry listed after a disable, and after an
enable exactly when it was listed twice or more before (`mem_marked`): removing
a mark does not unmark an entry listed twice (`unmark_keeps_second_listing`).
-/

namespace NetFleet.Overlay

variable {o : Lists} {st st' : Store} {key entry : String}

/-- A list that reads is the router's list in the document under the key, or
none. -/
theorem entries_eq_ok {before : List String} {found : Bool}
    (h : o.entries st key = .ok (before, found)) :
    ∃ doc, decodeDocument key (st.lookup key) = .ok doc ∧ (doc.list o.router).getD [] = before := by
  simp only [Lists.entries, loadDocument, Store.get] at h
  cases hg : st.getError with
  | some e => simp [hg] at h; cases h
  | none =>
    rcases hd : decodeDocument key (st.lookup key) with f | doc
    · simp [hg, hd] at h; cases h
    · refine ⟨doc, rfl, ?_⟩
      simp only [hg, bind, Except.bind, pure, Except.pure] at h
      rw [hd] at h
      cases hl : doc.list o.router with
      | none =>
        simp only [hl, Except.ok.injEq, Prod.mk.injEq] at h
        simp [h.1]
      | some es =>
        simp only [hl, Except.ok.injEq, Prod.mk.injEq] at h
        simp [h.1]

/-- A mark that reads comes from a list that reads. -/
theorem entries_of_contains {marked : Bool} (h : o.contains st key entry = .ok marked) :
    ∃ before found, o.entries st key = .ok (before, found) := by
  unfold Lists.contains at h
  rcases he : o.entries st key with f | ⟨before, found⟩
  · simp [he, bind, Except.bind] at h
  · exact ⟨before, found, rfl⟩

/-- A change that was written is the step's list for the router's list as the
document under the key held it. -/
theorem update_applied {step : List String → Except Fault (List String)} {es : List String}
    (h : o.update st key step = .applied es st') :
    ∃ doc, decodeDocument key (st.lookup key) = .ok doc ∧ step ((doc.list o.router).getD []) = .ok es := by
  unfold Lists.update at h
  cases hu : st.updateError with
  | some e => simp [hu] at h
  | none =>
    rcases hd : decodeDocument key (st.lookup key) with f | doc
    · simp [hu, hd] at h
    · refine ⟨doc, rfl, ?_⟩
      simp only [hu, hd] at h
      rcases hs : step ((doc.list o.router).getD []) with f | es'
      · simp [hs] at h
      -- a `null` document crashes; any other takes the step's list
      · cases doc with
        | none => simp [hs] at h
        | some ms =>
          simp [hs] at h
          rw [h.1]

/-- A mark that was written changed the router's list `before` by appending the
entry (a disable) or removing its first occurrence (an enable). -/
theorem mark_applied {disable : Bool} {es before : List String} {found : Bool}
    (hm : o.mark st key entry disable = .applied es st') (hb : o.entries st key = .ok (before, found)) :
    es = if disable then before ++ [entry] else before.erase entry := by
  obtain ⟨doc, hd, hbefore⟩ := entries_eq_ok hb
  cases disable with
  | true =>
    simp only [Lists.mark, Lists.add, if_true] at hm
    split at hm
    · cases hm
    · obtain ⟨doc', hd', hs⟩ := update_applied hm
      rw [hd] at hd'
      cases hd'
      rw [hbefore] at hs
      split at hs
      · cases hs
      · cases hs
        rfl
  | false =>
    simp only [Lists.mark, Lists.remove, Bool.false_eq_true, if_false] at hm
    split at hm
    · cases hm
    · obtain ⟨doc', hd', hs⟩ := update_applied hm
      rw [hd] at hd'
      cases hd'
      rw [hbefore] at hs
      split at hs
      · cases hs
        rfl
      · cases hs

/-- After a mark is written, the entry is listed when it was a disable, and
after an enable only when it was listed twice or more before. -/
theorem mem_marked (before : List String) (entry : String) (disable : Bool) :
    entry ∈ (if disable then before ++ [entry] else before.erase entry) ↔
      disable = true ∨ 2 ≤ before.count entry := by
  cases disable with
  | true => simp
  | false =>
    simp only [Bool.false_eq_true, if_false, false_or]
    rw [← List.count_pos_iff, List.count_erase_self]
    omega

/-- Taking the mark of an entry listed twice away leaves it listed once. -/
theorem unmark_keeps_second_listing :
    (match (Lists.mk "SIN1").mark { data := [(ethernetKey, "\x7b\"SIN1\":[\"eth0\",\"eth0\"]\x7d")] }
        ethernetKey "eth0" false with
      | .applied es _ => es
      | _ => []) = ["eth0"] := by
  decide +kernel

end NetFleet.Overlay
