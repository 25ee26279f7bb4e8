import Mathlib
import NetFleet.Column.Document
import NetFleet.Proofs.JsonRender

/-!
# The three ways into a column

A column's sets reach the decoder in three ways: as the bare text of the
`column` value with the kind given (`decodeSets`), inside a whole document of a
known kind (`decode`), and inside a whole document that names its own kind
(`decodeAny`). For the document `setsDocument k b`, which is
`{"column_type":<name>,"column":<b>}`, the three agree whenever `b` is a JSON
text: they give the same document or the same fault (`entry_points_agree`).

The agreement rests on two facts. What `decode` makes of a text depends on its
first value alone (`decode_congr`). And the document and the value that
`decodeSets` prints read as the same value, or, when the sets nest as deep as
the reader allows, are both refused as too deep.

For a text of sets that is not JSON the three part ways: `decodeSets` refuses it
with the printer's fault, which is no validation fault, while the other two
report validation faults with different messages
(`unclosed_sets_not_validation`).
-/

namespace NetFleet.Column.Document

open Json

/-- The document of kind `k` around the text `column` of its sets. -/
def setsDocument (k : Kind) (column : String) : String :=
  "\x7b\"column_type\":" ++ Json.quote .plain k.name ++ ",\"column\":" ++ column ++ "\x7d"

/-- The value of that document, as `decodeSets` prints it. -/
def setsValue (k : Kind) (j : Json) : Json := .obj [("column_type", .str k.name), ("column", j)]

/-! ### What decoding reads of a text -/

/-- Decoding sees a text only through its first value and what follows it. -/
theorem decode_congr {k : Kind} {s s' : String} (h : parseFirst s = parseFirst s') :
    decode k s = decode k s' := by
  simp only [decode, decodeIn, prepare, h]

theorem decode_of_parseFirst_error {k : Kind} {s : String} {e : SyntaxError} (h : parseFirst s = .error e) :
    decode k s = .error (invalid e.streamMessage) := by
  simp [decode, decodeIn, prepare, h, bind, Except.bind, throw, throwThe, MonadExceptOf.throw]

theorem resolve_name (k : Kind) : Kind.resolve k.name = .ok k := by
  cases k <;> rfl

theorem columnTypeOf_setsValue (k : Kind) (j : Json) : columnTypeOf (setsValue k j) = .ok k.name := by
  have h₁ : Text.foldName "column_type" = "column_type" := by decide
  have h₂ : Text.foldName "column" ≠ "column_type" := by decide
  simp [columnTypeOf, setsValue, h₁, h₂, List.foldlM, pure, Except.pure, bind, Except.bind]

/-- A document that reads as a sets value names its kind. -/
theorem decodeAny_of_parse {k : Kind} {s : String} {j : Json} (h : Json.parse s = .ok (setsValue k j)) :
    decodeAny s = decode k s := by
  simp [decodeAny, h, columnTypeOf_setsValue, resolve_name, bind, Except.bind, pure, Except.pure]

/-! ### The document around a text of sets -/

theorem height_setsValue (k : Kind) (j : Json) : height (setsValue k j) = height j + 1 := by
  simp [setsValue, height, heightMembers]

/-- The document around the text of a value is the text of its sets value. -/
theorem setsDocument_text {k : Kind} {b : String} {ws c ws' : List Char} {j : Json} (hws : Blanks ws)
    (hc : Text c j) (hws' : Blanks ws') (hb : b.toList = ws ++ c ++ ws') :
    Text (setsDocument k b).toList (setsValue k j) := by
  have l₁ : "\x7b\"column_type\":".toList = '{' :: (Json.quote .plain "column_type").toList ++ [':'] := by
    decide
  have l₂ : ",\"column\":".toList = ',' :: (Json.quote .plain "column").toList ++ [':'] := by decide
  have l₃ : "\x7d".toList = ['}'] := rfl
  have htext : (setsDocument k b).toList = '{' :: ((Json.quote .plain "column_type").toList ++ ':' ::
      ((Json.quote .plain k.name).toList ++ ',' :: ((Json.quote .plain "column").toList ++ ':' ::
        (ws ++ (c ++ (ws' ++ ['}'])))))) := by
    unfold setsDocument
    rw [String.toList_append, String.toList_append, String.toList_append, String.toList_append, l₁, l₂, l₃, hb]
    simp only [List.append_assoc, List.cons_append, List.nil_append]
  -- the members: the kind's name, then the sets with the blanks around them
  have hsets := Members.last blanks_nil (quote_text .plain "column") blanks_nil hws hc hws'
  have hdoc := Text.obj (Members.cons blanks_nil (quote_text .plain "column_type") blanks_nil blanks_nil
    (quote_text .plain k.name) blanks_nil hsets)
  simp only [List.append_assoc, List.cons_append, List.nil_append] at hdoc
  rw [htext]
  exact hdoc

/-! ### The three entry points -/

/-- For every text of sets that is JSON, the three entry points agree on the
document around it: `decodeSets` gives what `decode` gives, and so does
`decodeAny`, document or fault alike. -/
theorem entry_points_agree (k : Kind) (b : String) (j : Json) (hb : Json.parse b = .ok j) :
    decodeSets k b = decode k (setsDocument k b) ∧
      decodeAny (setsDocument k b) = decode k (setsDocument k b) := by
  obtain ⟨ws, c, ws', hbl, hws, hc, hws', hh⟩ := parse_sound hb
  have hdoc : Text (setsDocument k b).toList (setsValue k j) := setsDocument_text hws hc hws' hbl
  have hprint : Text (Json.render Escaping.html (setsValue k j)).toList (setsValue k j) := hdoc.render Escaping.html
  have hsets : decodeSets k b = decode k (Json.render Escaping.html (setsValue k j)) := by
    simp [decodeSets, hb, setsValue, bind, Except.bind, pure, Except.pure]
  rcases Nat.lt_or_ge (height j) maxDepth with hlt | hge
  · -- the document and the printed value read as the same value
    have hfit : height (setsValue k j) ≤ maxDepth := by rw [height_setsValue]; omega
    have h₁ : parseFirst (Json.render Escaping.html (setsValue k j)) = .ok (setsValue k j, []) := by
      simpa using parseFirst_text blanks_nil hprint follows_nil hfit
    have h₂ : parseFirst (setsDocument k b) = .ok (setsValue k j, []) := by
      simpa using parseFirst_text blanks_nil hdoc follows_nil hfit
    have h₃ : Json.parse (setsDocument k b) = .ok (setsValue k j) := by
      simpa using parse_text blanks_nil hdoc blanks_nil hfit
    exact ⟨hsets.trans (decode_congr (h₁.trans h₂.symm)), decodeAny_of_parse h₃⟩
  · -- the sets nest as deep as the reader allows: inside the document they are too deep
    have hdeep : maxDepth < height (setsValue k j) := by rw [height_setsValue]; omega
    have h₁ : parseFirst (Json.render Escaping.html (setsValue k j)) = .error .tooDeep := by
      simpa using parseFirst_tooDeep blanks_nil hprint [] hdeep
    have h₂ : parseFirst (setsDocument k b) = .error .tooDeep := by
      simpa using parseFirst_tooDeep blanks_nil hdoc [] hdeep
    have h₃ : Json.parse (setsDocument k b) = .error .tooDeep := by
      simpa using parse_tooDeep blanks_nil hdoc [] hdeep
    refine ⟨hsets.trans (decode_congr (h₁.trans h₂.symm)), ?_⟩
    rw [decode_of_parseFirst_error h₂]
    simp only [decodeAny, h₃, bind, Except.bind, throw, throwThe, MonadExceptOf.throw]
    rfl

/-- The sets `{}` of a firewall column, read all three ways. -/
theorem empty_sets_agree :
    Json.parse "\x7b\x7d" = .ok (.obj []) ∧
      (decodeSets .firewall "\x7b\x7d" = decode .firewall (setsDocument .firewall "\x7b\x7d") ∧
        decodeAny (setsDocument .firewall "\x7b\x7d") = decode .firewall (setsDocument .firewall "\x7b\x7d")) := by
  have h : Json.parse "\x7b\x7d" = .ok (.obj []) := by
    have e : String.ofList ['{', '}'] = "\x7b\x7d" := by decide
    rw [← e]
    simpa using parse_text blanks_nil (Text.objNil blanks_nil) blanks_nil (by simp [height, heightMembers, maxDepth])
  exact ⟨h, entry_points_agree .firewall "\x7b\x7d" (.obj []) h⟩

set_option maxRecDepth 4000 in
/-- Sets that leave their object open part the three ways: `decodeSets` refuses
them with the printer's fault, which is no validation fault, while `decode` and
`decodeAny` of the document around them report validation faults that word the
early end differently. -/
theorem unclosed_sets_not_validation :
    decodeSets .firewall "\x7b" =
        .error (.plain "json: error calling MarshalJSON for type *jsontext.Value: unexpected end of JSON input") ∧
      decode .firewall (setsDocument .firewall "\x7b") = .error (.validation ["unexpected EOF"]) ∧
      decodeAny (setsDocument .firewall "\x7b") = .error (.validation ["unexpected end of JSON input"]) := by
  have htext : (setsDocument .firewall "\x7b").toList = "\x7b\"column_type\":\"firewall\",\"column\":\x7b\x7d".toList := by
    unfold setsDocument
    decide
  -- the reader runs out of text inside the open object
  have h₁ : Json.parse "\x7b" = .error .truncated := by
    simp [Json.parse, readValue, readObject, readMembers, skipBlanks, isBlank, maxDepth, bind, Except.bind]
  have h₂ : parseFirst (setsDocument .firewall "\x7b") = .error .truncated := by
    simp only [parseFirst, htext]
    simp [readValue, readObject, readMembers, skipBlanks, isBlank, readString, maxDepth]
  have h₃ : Json.parse (setsDocument .firewall "\x7b") = .error .truncated := by
    simp only [Json.parse, htext]
    simp [readValue, readObject, readMembers, skipBlanks, isBlank, readString, maxDepth, bind, Except.bind]
  refine ⟨?_, decode_of_parseFirst_error h₂, ?_⟩
  · simp only [decodeSets, h₁, bind, Except.bind, throw, throwThe, MonadExceptOf.throw]
    rfl
  · simp only [decodeAny, h₃, bind, Except.bind, throw, throwThe, MonadExceptOf.throw]
    rfl

end NetFleet.Column.Document
