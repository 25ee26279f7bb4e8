import Mathlib
import NetFleet.Json.Print
import NetFleet.Proofs.JsonText

/-!
# Printed JSON reads back

`Json.render` writes a value compactly. For every value that has a text at all
(one whose numbers are JSON numbers, such as every value read from a text), what
it writes is a text of the grammar for that very value (`Text.render`), so it
parses back as the value it was written from (`parse_render`).

Strings are the one place where writing does work: each character is written as
itself or as an escape (`Body.escapeChar`). The four-digit escapes are written
only for control characters, the two line separators and, with
`Escaping.html`, for `<`, `>` and `&`, none of them a surrogate, so each reads
back as the character it came from.
-/

namespace NetFleet.Json

/-! ### Strings -/

/-- The four-digit escapes that are written read back. -/
theorem hex4_hexPad {n : Nat} (hn : n < 0x20 ∨ n = 0x26 ∨ n = 0x3c ∨ n = 0x3e ∨ n = 0x2028 ∨ n = 0x2029) :
    Hex4 (Text.hexPad 4 n).toList n := by
  refine ⟨?_, ?_⟩ <;> simp only [Text.hexPad, String.toList_ofList] <;>
    rcases hn with hn | rfl | rfl | rfl | rfl | rfl <;> try rfl
  all_goals interval_cases n <;> rfl

/-- A character written as a four-digit escape reads back as itself. -/
theorem Body.hexEscape {c : Char} {b s : List Char} (hb : Body b s)
    (hc : c.toNat < 0x20 ∨ c.toNat = 0x26 ∨ c.toNat = 0x3c ∨ c.toNat = 0x3e ∨ c.toNat = 0x2028 ∨
      c.toNat = 0x2029) :
    Body (('\\' :: 'u' :: (Text.hexPad 4 c.toNat).toList) ++ b) (c :: s) := by
  have hh : isHighSurrogate c.toNat = false := by
    simp only [isHighSurrogate, Bool.and_eq_false_iff, decide_eq_false_iff_not, not_le, not_lt]
    omega
  have hl : isLowSurrogate c.toNat = false := by
    simp only [isLowSurrogate, Bool.and_eq_false_iff, decide_eq_false_iff_not, not_le, not_lt]
    omega
  simpa [Char.ofNat_toNat] using Body.code (hex4_hexPad hc) hh hl hb

/-- Every character is written as text that reads back as that character. -/
theorem Body.escapeChar (esc : Escaping) (c : Char) {b s : List Char} (hb : Body b s) :
    Body ((escapeChar esc c).toList ++ b) (c :: s) := by
  unfold Json.escapeChar
  split
  · exact .escape rfl hb
  · exact .escape rfl hb
  · exact .escape rfl hb
  · exact .escape rfl hb
  · exact .escape rfl hb
  · exact .escape rfl hb
  · exact .escape rfl hb
  · next hq hbs _ _ _ _ _ =>
    split
    · -- control characters and the line separators
      next hctl =>
      simp only [Bool.or_eq_true, decide_eq_true_eq] at hctl
      rw [String.toList_append]
      exact hb.hexEscape (by omega)
    split
    · -- the characters escaped for markup
      next hhtml =>
      simp only [Bool.and_eq_true, Bool.or_eq_true, decide_eq_true_eq] at hhtml
      rw [String.toList_append]
      obtain ⟨-, (rfl | rfl) | rfl⟩ := hhtml
      all_goals exact hb.hexEscape (by decide)
    · -- every other character stands for itself
      next hctl _ =>
      simp only [Bool.or_eq_true, decide_eq_true_eq, not_or, not_lt] at hctl
      rw [show c.toString.toList = [c] by simp]
      exact Body.plain hq hbs (by omega) hb

/-- The escaped characters of a string read back as the string. -/
theorem body_escaped (esc : Escaping) (cs : List Char) :
    Body (String.join (cs.map (escapeChar esc))).toList cs := by
  induction cs with
  | nil => exact .nil
  | cons c cs ih =>
    rw [List.map_cons, String.join_cons, String.toList_append]
    exact Body.escapeChar esc c ih

/-- A quoted string is the text of that string. -/
theorem quote_text (esc : Escaping) (s : String) : Text (quote esc s).toList (.str s) := by
  have h := Text.str (body_escaped esc s.toList)
  rw [String.ofList_toList] at h
  convert h using 1
  simp [quote]

/-! ### Values -/

theorem Items.ne_nil {t : List Char} {vs : List Json} (h : Items t vs) : vs ≠ [] := by
  cases h <;> simp

theorem Members.ne_nil {t : List Char} {ms : List (String × Json)} (h : Members t ms) : ms ≠ [] := by
  cases h <;> simp

mutual

/-- A value that has a text is written as a text of itself. -/
theorem Text.render {c : List Char} {v : Json} (h : Text c v) (esc : Escaping) :
    Text (render esc v).toList v := by
  match h with
  | .null => rw [Json.render]; exact .null
  | .true_ => rw [Json.render]; exact .true_
  | .false_ => rw [Json.render]; exact .false_
  | .num hl => simpa [Json.render] using Text.num hl
  | .str _ => exact quote_text esc _
  | .arrNil _ => simpa [Json.render, renderItems] using Text.arrNil blanks_nil
  | .arr hi => simpa [Json.render] using Text.arr (hi.render esc)
  | .objNil _ => simpa [Json.render, renderMembers] using Text.objNil blanks_nil
  | .obj hm => simpa [Json.render] using Text.obj (hm.render esc)

theorem Items.render {t : List Char} {vs : List Json} (h : Items t vs) (esc : Escaping) :
    Items (renderItems esc vs).toList vs := by
  match h with
  | .last _ hc _ => simpa [renderItems] using Items.last blanks_nil (hc.render esc) blanks_nil
  | .cons _ hc _ ht =>
    obtain ⟨w, ws, rfl⟩ := List.exists_cons_of_ne_nil ht.ne_nil
    simpa [renderItems] using Items.cons blanks_nil (hc.render esc) blanks_nil (ht.render esc)

theorem Members.render {t : List Char} {ms : List (String × Json)} (h : Members t ms) (esc : Escaping) :
    Members (renderMembers esc ms).toList ms := by
  match h with
  | @Members.last _ _ _ _ _ _ k _ _ _ _ _ hc _ =>
    simpa [renderMembers] using
      Members.last blanks_nil (quote_text esc k) blanks_nil blanks_nil (hc.render esc) blanks_nil
  | @Members.cons _ _ _ _ _ _ _ k _ _ _ _ _ _ hc _ ht =>
    obtain ⟨m, ms, rfl⟩ := List.exists_cons_of_ne_nil ht.ne_nil
    simpa [renderMembers] using
      Members.cons blanks_nil (quote_text esc k) blanks_nil blanks_nil (hc.render esc) blanks_nil (ht.render esc)

end

/-- What is written of a value that has a text parses back as the value. -/
theorem parse_render {c : List Char} {v : Json} (h : Text c v) (hh : height v ≤ maxDepth) (esc : Escaping) :
    parse (render esc v) = .ok v := by
  simpa using parse_text blanks_nil (h.render esc) blanks_nil hh

end NetFleet.Json
