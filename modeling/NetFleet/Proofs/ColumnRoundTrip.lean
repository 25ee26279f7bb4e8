import Mathlib
import NetFleet.Proofs.RulesReadBack
import NetFleet.Proofs.DefaultsReadBack
import NetFleet.Proofs.DocumentEnd
import NetFleet.Proofs.ColumnReads

/-!
# Writing a column document is a fixed point of reading it

Every document that reads as a column of kind `k` is written as a text that reads
back, with the kind taken from its own `column_type`, as a document of kind `k`
that is written as the same text:

    decode k text = .ok d →
      ∃ d', decodeAny d.render = .ok d' ∧ d'.kind = k ∧ d'.render = d.render

The node of an accepted document is `Accepted`: it fits the document's shape,
nests no deeper than a JSON value may, names its kind, has its defaults filled in
and meets the rules (`decode_accepted`). Writing such a node and reading it back
gives `settle`, which is again accepted (`Accepted.settle`): its defaults commute
with reading back (`Proofs/DefaultsReadBack`) and its rules still hold
(`Proofs/RulesReadBack`). The text read back is written as the node was
(`encode_settle`).

The first reading need not keep what it read: a free-form number is kept as the
shortest text of the double nearest it, so `12345678901234567890` under `meta` is
written as `12345678901234567000`; and the node read back from the text need not be
the node written, since a member left out comes back as its zero. What is fixed
is the text.
-/

namespace NetFleet.Column

open Schema

theorem documentShape_wf (k : Kind) : k.documentShape.wf = true := by
  cases k <;> decide +kernel

theorem documentShape_depth (k : Kind) : k.documentShape.depth ≤ Json.maxDepth := by
  cases k <;> decide +kernel

theorem name_ne_empty (k : Kind) : k.name ≠ "" := by
  cases k <;> decide

end NetFleet.Column

namespace NetFleet.Column.Document

open Schema Json

variable {k : Kind} {text : String} {n : Node}

/-- The node of a document accepted as kind `k`: it fits the document's shape,
nests no deeper than a JSON value may, names its kind in `column_type`, has its
defaults filled in and meets the rules. -/
structure Accepted (k : Kind) (n : Node) : Prop where
  fits : Fits k.documentShape n
  within : n.Within maxDepth
  named : (n.member "column_type").str = k.name
  filled : applyDefaults k n = n
  rules : documentRules keyOrder k n = []

/-! ### The first reading -/

theorem parseFirst_numbers {s : String} {v : Json} {rest : List Char} (h : parseFirst s = .ok (v, rest)) :
    Numbers v ∧ height v ≤ maxDepth := by
  simp only [parseFirst] at h
  split at h
  · cases h
  · obtain ⟨ws, c, -, -, hc, hh⟩ := readValue_sound (Nat.zero_le _) h
    exact ⟨hc.leaves, by omega⟩

/-- A node that fits, nests no deeper than a JSON value may and names the kind is
accepted once its defaults are filled in, if it then meets the rules. -/
theorem accepted_applyDefaults {x : Node} (hfit : Fits k.documentShape x) (hwithin : x.Within maxDepth)
    (hnamed : (x.member "column_type").str = k.name) (hr : documentRules keyOrder k (applyDefaults k x) = []) :
    Accepted k (applyDefaults k x) where
  fits := fits_applyDefaults hfit
  within := within_applyDefaults hwithin
  named := by rw [member_applyDefaults (by decide)]; exact hnamed
  filled := applyDefaults_idem k x
  rules := hr

/-- A prepared document that meets the rules is accepted. -/
theorem prepare_accepted (h : prepare k text = .ok n) (hr : documentRules keyOrder k n = []) : Accepted k n := by
  unfold prepare at h
  simp only [bind, Except.bind, pure, Except.pure, throw, throwThe, MonadExceptOf.throw] at h
  rcases hp : parseFirst text with e | ⟨j, rest⟩
  · simp [hp] at h
  simp only [hp] at h
  split at h
  · cases h
  split at h
  next node hd =>
    obtain ⟨hj, hjH⟩ := parseFirst_numbers hp
    obtain ⟨hfit, hwithin⟩ := decodeDocument_keeps hd (documentShape_wf k) hj hjH (documentShape_depth k)
    split at h
    · cases h
    split at h
    · -- no column_type given: the kind's name is filled in
      cases h
      obtain ⟨fs, rfl, names, fields⟩ := hfit.record_cases rfl
      have hg : ∀ kv : String × Node,
          (if kv.1 = "column_type" then (kv.1, Node.text k.name) else (kv.1, kv.2)).1 = kv.1 := by
        intro kv
        split <;> rfl
      have hk : "column_type" ∈ fs.map (·.1) := by
        rw [names]
        simp [metaMember]
      refine accepted_applyDefaults (hfit.record_map hg ?_) (Node.within_record_map hwithin fun kv hkv => ?_) ?_ hr
      · simp only [metaMember, List.forall_mem_cons, List.not_mem_nil, IsEmpty.forall_iff, implies_true, and_true,
          Member.name_mk, Member.shape_mk] at fields ⊢
        simp only [String.reduceEq, if_false, if_true, fields, true_and, and_true]
        exact .text _ _
      · rw [Node.Within] at hwithin
        split
        · simp [Node.Within]
        · exact hwithin.2 kv hkv
      · simp only [Node.member_record, memberNode_map_of_fst hg hk, if_pos]
        rfl
    split at h
    next hnamed =>
      cases h
      exact accepted_applyDefaults hfit hwithin hnamed hr
    · cases h
  · cases h

theorem decode_accepted {d : Document} (h : decode k text = .ok d) : d.kind = k ∧ Accepted k d.node := by
  simp only [decode, decodeIn, bind, Except.bind] at h
  rcases hp : prepare k text with f | n
  · simp [hp] at h
  simp only [hp, checkRules] at h
  split at h
  next hr =>
    cases h
    exact ⟨rfl, prepare_accepted hp hr⟩
  · cases h

/-! ### Reading back -/

/-- Writing an accepted node and reading it back gives an accepted node. -/
theorem Accepted.settle (h : Accepted k n) : Accepted k (settle k.documentShape n) := by
  have hread := decodeInto_encode (documentShape_wf k) h.fits []
  obtain ⟨hfit, hwithin⟩ := decodeInto_keeps hread (documentShape_wf k) (Fits.zero (documentShape_wf k))
    ((Node.within_zero _).mono (documentShape_depth k)) (numbers_encode h.fits) (height_encode h.fits h.within)
    (documentShape_depth k)
  refine ⟨hfit, hwithin, ?_, ?_, documentRules_settle h.fits h.rules⟩
  · simp only [h.fits.member_settle rfl]
    simpa [metaMember] using h.named
  · rw [applyDefaults_settle h.fits, h.filled]

/-- The written form of an accepted node gives its kind's name as its `column_type`. -/
theorem columnTypeOf_encode (h : Accepted k n) : columnTypeOf (encode k.documentShape n) = .ok k.name := by
  obtain ⟨fs, rfl, names, fields⟩ := h.fits.record_cases rfl
  have hnamed := h.named
  have htype : Fits (.text "column.Type") (memberNode fs "column_type") :=
    fields (.mk "column_type" .never (.text "column.Type")) (by simp)
  obtain ⟨t, ht⟩ : ∃ t, memberNode fs "column_type" = .text t := by
    generalize memberNode fs "column_type" = v at htype
    cases htype
    exact ⟨_, rfl⟩
  rw [Node.member_record, ht] at hnamed
  have htk : t = k.name := hnamed
  -- only column_type folds to column_type; meta is written only when not empty
  have h₁ : Text.foldName "column_type" = "column_type" := by decide
  have h₂ : Text.foldName "meta" ≠ "column_type" := by decide
  have h₃ : Text.foldName "column" ≠ "column_type" := by decide
  simp only [Kind.documentShape, encode_record, written, columnTypeOf, metaMember, List.filterMap_cons,
    List.filterMap_nil, Member.rule_mk, Member.name_mk, Member.shape_mk, omitted, ht]
  by_cases hm : (memberNode fs "meta").isEmpty = true <;>
    simp [hm, h₁, h₂, h₃, encode, htk, List.foldlM_cons, pure, Except.pure, bind, Except.bind]

/-- The text of an accepted node reads back, as its kind, to the node written and read back. -/
theorem decode_render (h : Accepted k n) :
    decode k (Json.render .html (encode k.documentShape n)) = .ok ⟨k, settle k.documentShape n⟩ := by
  obtain ⟨c, hc⟩ := exists_text_of_leaves (numbers_encode h.fits)
  have hH : height (encode k.documentShape n) ≤ maxDepth := height_encode h.fits h.within
  have hfirst : parseFirst (Json.render .html (encode k.documentShape n)) = .ok (encode k.documentShape n, []) := by
    simpa using parseFirst_text blanks_nil (hc.render .html) follows_nil hH
  have hs := h.settle
  have hmore : moreAfter [] = false := rfl
  simp only [decode, decodeIn, prepare, checkRules, bind, Except.bind, pure, Except.pure, hfirst, hmore,
    unknownMember?_encode (documentShape_wf k) h.fits, decodeDocument_encode (documentShape_wf k) h.fits,
    hs.named, name_ne_empty, hs.filled, Bool.false_eq_true, ↓reduceIte, hs.rules]

/-- The text of an accepted node names its kind, so reading it without being told
the kind reads it as that kind. -/
theorem decodeAny_render (h : Accepted k n) :
    decodeAny (Json.render .html (encode k.documentShape n)) = .ok ⟨k, settle k.documentShape n⟩ := by
  obtain ⟨c, hc⟩ := exists_text_of_leaves (numbers_encode h.fits)
  have hparse := parse_render hc (height_encode h.fits h.within) .html
  simp only [decodeAny, hparse, columnTypeOf_encode h, resolve_name, decode_render h, bind, Except.bind, pure,
    Except.pure]

/-! ### The fixed point -/

/-- Writing an accepted document is a fixed point of reading it back: the text of a
document that reads as kind `k` reads back, with the kind taken from the text, as a
document of kind `k` whose text is the same. -/
theorem decodeAny_render_fixed {d : Document} (h : decode k text = .ok d) :
    ∃ d', decodeAny d.render = .ok d' ∧ d'.kind = k ∧ d'.render = d.render := by
  obtain ⟨hk, hd⟩ := decode_accepted h
  refine ⟨⟨k, settle k.documentShape d.node⟩, ?_, rfl, ?_⟩
  · rw [render, toJson, hk]
    exact decodeAny_render hd
  · simp only [render, toJson, hk, encode_settle (documentShape_wf k) hd.fits]

/-- A firewall document with one empty set is accepted and its text is a fixed point. -/
theorem firewall_render_fixed :
    ∃ d, decode .firewall "\x7b\"column\":\x7b\"A\":\x7b\x7d\x7d\x7d" = .ok d ∧
      ∃ d', decodeAny d.render = .ok d' ∧ d'.kind = .firewall ∧ d'.render = d.render := by
  obtain ⟨d, hd⟩ := Netdb.exists_ok_of_toBool
    (show (decode .firewall "\x7b\"column\":\x7b\"A\":\x7b\x7d\x7d\x7d").toBool = true by decide +kernel)
  exact ⟨d, hd, decodeAny_render_fixed hd⟩

/-- The first reading keeps a free-form number as the shortest text of the double
nearest it, so the text written is not the text read: `12345678901234567890` under
`meta` is written as `12345678901234567000`. -/
theorem meta_number_written_as_double :
    ∃ d, decode .firewall "\x7b\"column\":\x7b\"A\":\x7b\"meta\":\x7b\"x\":12345678901234567890\x7d\x7d\x7d\x7d" = .ok d ∧
      d.render = "\x7b\"column_type\":\"firewall\",\"column\":\x7b\"A\":\x7b\"meta\":\x7b\"x\":12345678901234567000\x7d\x7d\x7d\x7d" := by
  have h : (decode .firewall "\x7b\"column\":\x7b\"A\":\x7b\"meta\":\x7b\"x\":12345678901234567890\x7d\x7d\x7d\x7d").toOption.map
      render = some "\x7b\"column_type\":\"firewall\",\"column\":\x7b\"A\":\x7b\"meta\":\x7b\"x\":12345678901234567000\x7d\x7d\x7d\x7d" := by
    decide +kernel
  rcases hd : decode .firewall "\x7b\"column\":\x7b\"A\":\x7b\"meta\":\x7b\"x\":12345678901234567890\x7d\x7d\x7d\x7d" with f | d
  · simp [hd, Except.toOption] at h
  · simp only [hd, Except.toOption, Option.map_some, Option.some.injEq] at h
    exact ⟨d, rfl, h⟩

end NetFleet.Column.Document
