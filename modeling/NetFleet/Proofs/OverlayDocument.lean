import Mathlib
import NetFleet.Overlay.Entries
import NetFleet.Proofs.JsonCompact

/-!
# The documents of the overlay

A document under an overlay key is read member by member, each value kept as
the text it was written in, and written back whole: members sorted by name, each
value compacted. Decoding leaves a document `Sorted` by name and `Valued`: each
value the text of a JSON value that fits inside an object (`decodeDocument_ok`).
For such a document:

* putting a member in keeps it sorted and valued, and changes the member of that
  name and no other (`find?_putMember`, `list_putMember`);
* writing it and reading it back gives its members with their values compacted
  (`decodeDocument_render`), and compaction changes no router's list
  (`list_compact`);
* the list written for a router reads back as that list (`list_renderList`).
-/

namespace NetFleet.Overlay

open Json

/-! ### Members in order -/

/-- Members sorted by name, no name twice. -/
def Sorted (ms : List (String × String)) : Prop := ms.Pairwise fun a b => a.1 < b.1

/-- Each value is the text of a JSON value that fits inside an object. -/
def Valued (ms : List (String × String)) : Prop :=
  ∀ m ∈ ms, ∃ j, Text m.2.toList j ∧ height j < maxDepth

theorem mem_putMember {k v : String} {ms : List (String × String)} {m : String × String}
    (h : m ∈ putMember k v ms) : m = (k, v) ∨ m ∈ ms := by
  induction ms with
  | nil => simpa [putMember] using h
  | cons p ms ih =>
    obtain ⟨k', v'⟩ := p
    simp only [putMember] at h
    split_ifs at h with h₁ h₂
    · simp only [List.mem_cons] at h
      rcases h with h | h
      · exact .inl h
      · exact .inr (List.mem_cons_of_mem _ h)
    · simpa using h
    · simp only [List.mem_cons] at h
      rcases h with h | h
      · exact .inr (h ▸ List.mem_cons_self)
      · rcases ih h with h | h
        · exact .inl h
        · exact .inr (List.mem_cons_of_mem _ h)

theorem Valued.putMember {k v : String} {ms : List (String × String)} (hms : Valued ms)
    (hv : ∃ j, Text v.toList j ∧ height j < maxDepth) : Valued (Overlay.putMember k v ms) := by
  intro m hm
  rcases mem_putMember hm with rfl | hm
  · exact hv
  · exact hms m hm

theorem Sorted.putMember {k v : String} {ms : List (String × String)} (hs : Sorted ms) :
    Sorted (Overlay.putMember k v ms) := by
  induction ms with
  | nil => simp [Overlay.putMember, Sorted]
  | cons p ms ih =>
    obtain ⟨k', v'⟩ := p
    simp only [Sorted, List.pairwise_cons] at hs
    simp only [Overlay.putMember]
    split_ifs with h₁ h₂
    · -- the member of that name is replaced in place
      subst h₁
      exact List.pairwise_cons.2 ⟨hs.1, hs.2⟩
    · -- the member goes before the first one named after it
      refine List.pairwise_cons.2 ⟨fun m hm => ?_, List.pairwise_cons.2 hs⟩
      rcases List.mem_cons.1 hm with rfl | hm
      · exact h₂
      · exact lt_trans h₂ (hs.1 m hm)
    · have hlt : k' < k := lt_of_le_of_ne (not_lt.1 h₂) h₁
      refine List.pairwise_cons.2 ⟨fun m hm => ?_, ih hs.2⟩
      rcases mem_putMember hm with rfl | hm
      · exact hlt
      · exact hs.1 m hm

/-- A member named after every other goes last. -/
theorem putMember_of_lt {k v : String} {ms : List (String × String)} (h : ∀ m ∈ ms, m.1 < k) :
    putMember k v ms = ms ++ [(k, v)] := by
  induction ms with
  | nil => rfl
  | cons p ms ih =>
    obtain ⟨k', v'⟩ := p
    have hlt : k' < k := h _ List.mem_cons_self
    simp only [putMember, ne_of_lt hlt, lt_asymm hlt, if_false, List.cons_append]
    rw [ih fun m hm => h m (List.mem_cons_of_mem _ hm)]

/-- Putting sorted members one by one into a document rebuilds them. -/
theorem foldl_putMember {ms : List (String × String)} (hs : Sorted ms) :
    ms.foldl (fun acc m => putMember m.1 m.2 acc) [] = ms := by
  -- after each step the members put so far are a prefix of `ms`
  suffices h : ∀ acc, Sorted (acc ++ ms) → ms.foldl (fun acc m => putMember m.1 m.2 acc) acc = acc ++ ms from
    by simpa using h [] (by simpa using hs)
  clear hs
  induction ms with
  | nil => simp
  | cons m ms ih =>
    obtain ⟨k, v⟩ := m
    intro acc hacc
    have hlt : ∀ a ∈ acc, a.1 < k := fun a ha => (List.pairwise_append.1 hacc).2.2 a ha _ List.mem_cons_self
    rw [List.foldl_cons, putMember_of_lt hlt, ih _ (by simpa using hacc)]
    simp

/-- Putting a member in changes the member of that name and no other. -/
theorem find?_putMember (k v r : String) (ms : List (String × String)) :
    (putMember k v ms).find? (·.1 = r) = if k = r then some (k, v) else ms.find? (·.1 = r) := by
  induction ms with
  | nil => by_cases h : k = r <;> simp [putMember, h]
  | cons p ms ih =>
    obtain ⟨k', v'⟩ := p
    simp only [putMember]
    by_cases hr : k = r <;> by_cases hk : k' = r <;> split_ifs <;> simp_all

theorem find?_eq_none_of_lt {ms : List (String × String)} {r : String} (h : ∀ m ∈ ms, r < m.1) :
    ms.find? (·.1 = r) = none := by
  refine List.find?_eq_none.2 fun m hm hr => ?_
  have hlt := h m hm
  rw [of_decide_eq_true hr] at hlt
  exact lt_irrefl r hlt

/-- Sorted documents with the same member under every name are the same. -/
theorem Sorted.ext {l₁ l₂ : List (String × String)} (h₁ : Sorted l₁) (h₂ : Sorted l₂)
    (h : ∀ r, l₁.find? (·.1 = r) = l₂.find? (·.1 = r)) : l₁ = l₂ := by
  induction l₁ generalizing l₂ with
  | nil =>
    cases l₂ with
    | nil => rfl
    | cons b l₂ => simpa using (h b.1).symm
  | cons a l₁ ih =>
    cases l₂ with
    | nil => simpa using h a.1
    | cons b l₂ =>
      simp only [Sorted, List.pairwise_cons] at h₁ h₂
      -- the first members have the same name: a smaller one would be missing from the other document
      have hab : a.1 = b.1 := by
        rcases lt_trichotomy a.1 b.1 with hlt | heq | hgt
        · have h₃ : (a :: l₁).find? (·.1 = a.1) = some a := List.find?_cons_of_pos (by simp)
          have h₄ : (b :: l₂).find? (·.1 = a.1) = none := by
            rw [List.find?_cons_of_neg (by simpa using (ne_of_lt hlt).symm)]
            exact find?_eq_none_of_lt fun m hm => lt_trans hlt (h₂.1 m hm)
          have hb := h a.1
          rw [h₃, h₄] at hb
          cases hb
        · exact heq
        · have h₃ : (a :: l₁).find? (·.1 = b.1) = none := by
            rw [List.find?_cons_of_neg (by simpa using (ne_of_lt hgt).symm)]
            exact find?_eq_none_of_lt fun m hm => lt_trans hgt (h₁.1 m hm)
          have h₄ : (b :: l₂).find? (·.1 = b.1) = some b := List.find?_cons_of_pos (by simp)
          have ha := h b.1
          rw [h₃, h₄] at ha
          cases ha
      have hfirst : a = b := by
        have hb := h a.1
        rw [List.find?_cons_of_pos (by simp), List.find?_cons_of_pos (by simp [hab])] at hb
        exact Option.some.inj hb
      subst hfirst
      refine congrArg _ (ih h₁.2 h₂.2 fun r => ?_)
      by_cases hr : a.1 = r
      · -- no later member has the name of the first
        subst hr
        rw [find?_eq_none_of_lt h₁.1, find?_eq_none_of_lt h₂.1]
      · have hr' := h r
        rwa [List.find?_cons_of_neg (by simpa using hr), List.find?_cons_of_neg (by simpa using hr)] at hr'

/-- Members of different names are put in either order with the same result. -/
theorem putMember_comm {ms : List (String × String)} (hs : Sorted ms) {k₁ k₂ : String} (hk : k₁ ≠ k₂)
    (v₁ v₂ : String) : putMember k₁ v₁ (putMember k₂ v₂ ms) = putMember k₂ v₂ (putMember k₁ v₁ ms) := by
  refine Sorted.ext hs.putMember.putMember hs.putMember.putMember fun r => ?_
  simp only [find?_putMember]
  by_cases h₁ : k₁ = r <;> by_cases h₂ : k₂ = r <;> simp_all

theorem find?_map_compact (ms : List (String × String)) (r : String) :
    (ms.map fun m => (m.1, compactText m.2)).find? (·.1 = r) =
      (ms.find? (·.1 = r)).map fun m => (m.1, compactText m.2) := by
  induction ms with
  | nil => rfl
  | cons m ms ih => by_cases h : m.1 = r <;> simp [h, ih]

/-- Changing the values of a document keeps where a member goes. -/
theorem map_putMember (f : String → String) (k v : String) (ms : List (String × String)) :
    (putMember k v ms).map (fun m => (m.1, f m.2)) = putMember k (f v) (ms.map fun m => (m.1, f m.2)) := by
  induction ms with
  | nil => rfl
  | cons p ms ih =>
    obtain ⟨k', v'⟩ := p
    simp only [putMember, List.map_cons]
    split_ifs <;> simp [ih]

/-! ### Lists in documents -/

/-- A router's list after a member is put in: the new member's list for the
member's own router, the old list for every other. -/
theorem list_putMember (k v r : String) (ms : List (String × String)) :
    Document.list (some (putMember k v ms)) r =
      if k = r then Document.list (some [(k, v)]) r else Document.list (some ms) r := by
  have h : ((putMember k v ms).find? (·.1 = r)).map (·.2) =
      if k = r then some v else (ms.find? (·.1 = r)).map (·.2) := by
    rw [find?_putMember]
    split <;> rfl
  by_cases hr : k = r
  · subst hr
    simp only [if_true] at h ⊢
    simp only [Document.list, Option.bind_eq_bind, Option.bind_some]
    rw [h]
    simp
  · simp only [hr, if_false] at h ⊢
    simp only [Document.list, Option.bind_eq_bind, Option.bind_some]
    rw [h]

/-- The compact text of a value reads as the value itself. -/
theorem parse_compactText_eq {s : String} {j : Json} (h : Text s.toList j) (hh : height j ≤ maxDepth) :
    parse (compactText s) = parse s := by
  have h₁ := parse_compactText h hh
  have h₂ := parse_text blanks_nil h blanks_nil hh
  rw [String.ofList_toList] at h₁
  simp only [List.nil_append, List.append_nil, String.ofList_toList] at h₂
  rw [h₁, h₂]

/-- A router's list is read from the first member of its name. -/
theorem list_cons (m : String × String) (ms : List (String × String)) (r : String) :
    Document.list (some (m :: ms)) r =
      if m.1 = r then Document.list (some [m]) r else Document.list (some ms) r := by
  by_cases h : m.1 = r
  · simp only [Document.list, Option.bind_eq_bind, Option.bind_some, h, if_true]
    rw [List.find?_cons_of_pos (by simpa using h), List.find?_cons_of_pos (by simpa using h)]
  · simp only [Document.list, Option.bind_eq_bind, Option.bind_some, h, if_false]
    rw [List.find?_cons_of_neg (by simpa using h)]

/-- Compacting the values of a document changes no router's list. -/
theorem list_compact {ms : List (String × String)} (hms : Valued ms) (r : String) :
    Document.list (some (ms.map fun m => (m.1, compactText m.2))) r = Document.list (some ms) r := by
  induction ms with
  | nil => rfl
  | cons m ms ih =>
    have hrest : Valued ms := fun m' hm' => hms m' (List.mem_cons_of_mem _ hm')
    obtain ⟨j, hj, hh⟩ := hms m List.mem_cons_self
    -- a member's own list reads the same from its compact text
    have hone : Document.list (some [(m.1, compactText m.2)]) r = Document.list (some [m]) r := by
      simp only [Document.list, Option.bind_eq_bind, Option.bind_some, List.find?_singleton]
      split <;> simp [parse_compactText_eq hj hh.le]
    rw [List.map_cons, list_cons _ (List.map _ ms), list_cons m ms, ih hrest, hone]

/-- Decoding the items of a list of strings gives back the strings. -/
theorem mapM_str {f : Json → Option String} (hf : ∀ s, f (.str s) = some s) (l : List String) :
    (l.map Json.str).mapM f = some l := by
  induction l with
  | nil => rfl
  | cons s l ih => simp [List.mapM_cons, hf, ih]

theorem strs_items (s : String) (l : List String) : ∃ t, Items t ((s :: l).map Json.str) := by
  induction l generalizing s with
  | nil => exact ⟨_, Items.last blanks_nil (quote_text .html s) blanks_nil⟩
  | cons s' l ih =>
    obtain ⟨t, ht⟩ := ih s'
    exact ⟨_, Items.cons blanks_nil (quote_text .html s) blanks_nil ht⟩

/-- The list written for a router is a text of its strings. -/
theorem renderList_text (l : List String) : Text (renderList l).toList (Json.strs l) := by
  have h : ∃ c, Text c (Json.strs l) := by
    cases l with
    | nil => exact ⟨_, .arrNil blanks_nil⟩
    | cons s l =>
      obtain ⟨t, ht⟩ := strs_items s l
      exact ⟨_, .arr ht⟩
  obtain ⟨c, hc⟩ := h
  exact hc.render .html

theorem height_strs (l : List String) : height (Json.strs l) = 1 := by
  have h : heightItems (l.map Json.str) = 0 := by
    induction l with
    | nil => rfl
    | cons s l ih => simp [heightItems, height, ih]
  simp [Json.strs, height, h]

/-- The list written for a router reads back as that list. -/
theorem list_renderList (k : String) (l : List String) : Document.list (some [(k, renderList l)]) k = some l := by
  have hp : parse (renderList l) = .ok (Json.strs l) := by
    simpa using parse_text blanks_nil (renderList_text l) blanks_nil (by simp [height_strs, maxDepth])
  simp only [Document.list, Option.bind_eq_bind, Option.bind_some, List.find?_cons_of_pos, decide_true,
    Option.map_some, hp, Json.strs]
  exact mapM_str (fun _ => rfl) l

/-- The list of a router's value, once compacted, is still the list of that value. -/
theorem renderList_valued (l : List String) : ∃ j, Text (renderList l).toList j ∧ height j < maxDepth :=
  ⟨_, renderList_text l, by simp [height_strs, maxDepth]⟩

/-! ### Writing and reading a document -/

/-- The text of one member of a written document. -/
def memberText (m : String × String) : String := Json.quote .html m.1 ++ ":" ++ compactText m.2

theorem renderDocument_eq (ms : List (String × String)) :
    renderDocument ms = "\x7b" ++ ",".intercalate (ms.map memberText) ++ "\x7d" := rfl

theorem toList_memberText (m : String × String) :
    (memberText m).toList = (Json.quote .html m.1).toList ++ ':' :: (compactText m.2).toList := by
  simp only [memberText, String.toList_append, List.append_assoc, show ":".toList = [':'] from rfl,
    List.singleton_append]

/-- The members of a written document form a text of members, of values that
fit inside an object. -/
theorem members_text {ms : List (String × String)} (hms : Valued ms) (hne : ms ≠ []) :
    ∃ fields, Members (",".intercalate (ms.map memberText)).toList fields ∧ heightMembers fields < maxDepth := by
  induction ms with
  | nil => exact absurd rfl hne
  | cons m ms ih =>
    obtain ⟨j, hj, hh⟩ := hms m List.mem_cons_self
    have hc : Text (compactText m.2).toList j := hj.compact
    cases ms with
    | nil =>
      refine ⟨[(m.1, j)], ?_, by simpa [heightMembers] using hh⟩
      simpa [toList_memberText] using
        Members.last blanks_nil (quote_text .html m.1) blanks_nil blanks_nil hc blanks_nil
    | cons m' ms =>
      obtain ⟨fields, hm, hf⟩ := ih (fun x hx => hms x (List.mem_cons_of_mem _ hx)) (by simp)
      refine ⟨(m.1, j) :: fields, ?_, by simp only [heightMembers]; omega⟩
      have e : ",".intercalate ((m :: m' :: ms).map memberText) =
          memberText m ++ "," ++ ",".intercalate ((m' :: ms).map memberText) := String.intercalate_cons_cons
      rw [e, String.toList_append, String.toList_append, toList_memberText]
      simpa using Members.cons blanks_nil (quote_text .html m.1) blanks_nil blanks_nil hc blanks_nil hm

/-- The members of a written document are cut where they were written: each
name with its compacted value. -/
theorem memberSpans_render {ms : List (String × String)} (hms : Valued ms) (hne : ms ≠ []) (rest : List Char)
    {fuel : Nat} (hf : (",".intercalate (ms.map memberText)).toList.length < fuel) :
    memberSpans fuel ((",".intercalate (ms.map memberText)).toList ++ '}' :: rest) =
      ms.map fun m => (m.1, compactText m.2) := by
  induction ms generalizing fuel with
  | nil => exact absurd rfl hne
  | cons m ms ih =>
    obtain ⟨f, rfl⟩ : ∃ f, fuel = f + 1 := ⟨fuel - 1, by omega⟩
    obtain ⟨j, hj, -⟩ := hms m List.mem_cons_self
    have hc : Text (compactText m.2).toList j := hj.compact
    have hk := quote_text .html m.1
    cases ms with
    | nil =>
      have h := memberSpans_member blanks_nil hk blanks_nil blanks_nil hc blanks_nil (.inr rfl) rest f
      simp only [List.nil_append, String.ofList_toList] at h
      simp only [List.map_cons, List.map_nil, String.intercalate_singleton, toList_memberText, List.append_assoc,
        List.cons_append]
      rw [h]
      rfl
    | cons m' ms =>
      have h := memberSpans_member blanks_nil hk blanks_nil blanks_nil hc blanks_nil (.inl rfl)
        ((",".intercalate ((m' :: ms).map memberText)).toList ++ '}' :: rest) f
      simp only [List.nil_append, String.ofList_toList, ↓reduceIte] at h
      have hlen : (",".intercalate ((m' :: ms).map memberText)).toList.length < f := by
        simp only [List.map_cons, String.intercalate_cons_cons, String.toList_append, List.length_append,
          show ",".toList = [','] from rfl, List.length_singleton] at hf ⊢
        omega
      simp only [List.map_cons, String.intercalate_cons_cons, String.toList_append, toList_memberText,
        List.append_assoc, List.cons_append] at h ⊢
      rw [show ",".toList = [','] from rfl, List.singleton_append, h]
      simp only [List.map_cons] at ih
      rw [ih (fun x hx => hms x (List.mem_cons_of_mem _ hx)) (by simp) hlen]

/-- A text that is not empty and reads as an object is decoded member by member. -/
theorem decodeDocument_obj {key text : String} {fields : List (String × Json)} (hne : text ≠ "")
    (hp : parse text = .ok (.obj fields)) :
    decodeDocument key (some text) = .ok (some ((rawMembers text).foldl (fun acc m => putMember m.1 m.2 acc) [])) := by
  simp only [decodeDocument, hp]

theorem toList_renderDocument (ms : List (String × String)) :
    (renderDocument ms).toList = '{' :: ((",".intercalate (ms.map memberText)).toList ++ ['}']) := by
  rw [renderDocument_eq, String.toList_append, String.toList_append]
  rfl

/-- A written document reads back as its members with their values compacted. -/
theorem decodeDocument_render (key : String) {ms : List (String × String)} (hs : Sorted ms) (hms : Valued ms) :
    decodeDocument key (some (renderDocument ms)) = .ok (some (ms.map fun m => (m.1, compactText m.2))) := by
  have htext := toList_renderDocument ms
  have hne : renderDocument ms ≠ "" := by
    intro h
    have h' := congrArg String.toList h
    rw [htext] at h'
    simp at h'
  -- the text is that of an object, and it is cut where it was written
  obtain ⟨fields, hparse, hraw⟩ : ∃ fields, parse (renderDocument ms) = .ok (.obj fields) ∧
      rawMembers (renderDocument ms) = ms.map fun m => (m.1, compactText m.2) := by
    have hofList : renderDocument ms = String.ofList (renderDocument ms).toList := String.ofList_toList.symm
    by_cases hne' : ms = []
    · subst hne'
      refine ⟨[], ?_, ?_⟩
      · rw [hofList, htext]
        simpa using parse_text blanks_nil (Text.objNil blanks_nil) blanks_nil (by simp [height, heightMembers, maxDepth])
      · simp only [rawMembers, htext]
        simp [memberSpans, skipBlanks, isBlank]
    · obtain ⟨fields, hm, hh⟩ := members_text hms hne'
      refine ⟨fields, ?_, ?_⟩
      · rw [hofList, htext]
        simpa using parse_text blanks_nil (Text.obj hm) blanks_nil (by simp only [height]; omega)
      · simp only [rawMembers, htext]
        exact memberSpans_render hms hne' [] (by simp)
  have hsorted : Sorted (ms.map fun m => (m.1, compactText m.2)) := List.pairwise_map.2 hs
  rw [decodeDocument_obj hne hparse, hraw, foldl_putMember hsorted]

theorem le_heightMembers {fields : List (String × Json)} {f : String × Json} (h : f ∈ fields) :
    height f.2 ≤ heightMembers fields := by
  induction fields with
  | nil => cases h
  | cons p fields ih =>
    obtain ⟨k, v⟩ := p
    rcases List.mem_cons.1 h with rfl | h
    · simp [heightMembers]
    · simp only [heightMembers]
      exact le_max_of_le_right (ih h)

/-- The members of an object read from a text are valued. -/
theorem rawMembers_valued {s : String} {fields : List (String × Json)} (h : parse s = .ok (.obj fields)) :
    Valued (rawMembers s) := by
  obtain ⟨-, -, -, -, -, -, -, hh⟩ := parse_sound h
  have hfit : ∀ f ∈ fields, height f.2 < maxDepth := fun f hf => by
    have := le_heightMembers hf
    simp only [height] at hh
    omega
  -- each member cut from the text is the text of a member read from it
  have hraw := rawMembers_of_parse h
  generalize rawMembers s = raws at hraw
  clear h hh
  induction hraw with
  | nil => intro m hm; cases hm
  | @cons f r fs rs hrel _ ih =>
    intro m hm
    rcases List.mem_cons.1 hm with rfl | hm
    · exact ⟨f.2, hrel.2, hfit f List.mem_cons_self⟩
    · exact ih (fun f' hf' => hfit f' (List.mem_cons_of_mem _ hf')) m hm

/-- Putting valued members one by one into a sorted, valued document keeps it so. -/
theorem foldl_putMember_valued {raws acc : List (String × String)} (hs : Sorted acc) (ha : Valued acc)
    (hr : Valued raws) :
    Sorted (raws.foldl (fun acc m => putMember m.1 m.2 acc) acc) ∧
      Valued (raws.foldl (fun acc m => putMember m.1 m.2 acc) acc) := by
  induction raws generalizing acc with
  | nil => exact ⟨hs, ha⟩
  | cons m raws ih =>
    rw [List.foldl_cons]
    exact ih hs.putMember (ha.putMember (hr m List.mem_cons_self)) fun m' hm' => hr m' (List.mem_cons_of_mem _ hm')

/-- A document that decodes is sorted and valued. -/
theorem decodeDocument_ok {key : String} {raw : Option String} {ms : List (String × String)}
    (h : decodeDocument key raw = .ok (some ms)) : Sorted ms ∧ Valued ms := by
  simp only [decodeDocument] at h
  split at h
  · -- no document
    cases h
    exact ⟨List.Pairwise.nil, fun _ hm => by cases hm⟩
  · -- an empty one
    cases h
    exact ⟨List.Pairwise.nil, fun _ hm => by cases hm⟩
  · next text _ =>
    split at h
    · cases h
    · cases h
    · next fields hp =>
      cases h
      exact foldl_putMember_valued List.Pairwise.nil (fun _ hm => by cases hm) (rawMembers_valued hp)
    · cases h

/-- A document is written the same whether its values were compacted before. -/
theorem renderDocument_compact (ms : List (String × String)) :
    renderDocument (ms.map fun m => (m.1, compactText m.2)) = renderDocument ms := by
  have e : memberText ∘ (fun m => (m.1, compactText m.2)) = memberText :=
    funext fun m => by simp [memberText, compactText_idem]
  rw [renderDocument_eq, renderDocument_eq, List.map_map, e]

theorem map_compact_idem (ms : List (String × String)) :
    (ms.map fun m => (m.1, compactText m.2)).map (fun m => (m.1, compactText m.2)) =
      ms.map fun m => (m.1, compactText m.2) := by
  simp [List.map_map, Function.comp_def, compactText_idem]

/-- Two routers' members put into a document one after the other, the document
read back in between, are written as the same text in either order. -/
theorem renderDocument_comm {ms : List (String × String)} (hs : Sorted ms) {r₁ r₂ : String} (hr : r₁ ≠ r₂)
    (x₁ x₂ : String) :
    renderDocument (putMember r₂ x₂ ((putMember r₁ x₁ ms).map fun m => (m.1, compactText m.2))) =
      renderDocument (putMember r₁ x₁ ((putMember r₂ x₂ ms).map fun m => (m.1, compactText m.2))) := by
  -- written text does not see a second compaction, so both sides are the sorted
  -- document with both members put in, compacted once
  have hc : Sorted (ms.map fun m => (m.1, compactText m.2)) := List.pairwise_map.2 hs
  rw [← renderDocument_compact (putMember r₂ x₂ _), ← renderDocument_compact (putMember r₁ x₁ _)]
  simp only [map_putMember, map_compact_idem, compactText_idem]
  rw [putMember_comm hc hr]

/-! ### Changes through documents -/

section Changes

variable {o : Lists} {st : Store} {key : String} {step : List String → Except Fault (List String)}
  {ms : List (String × String)}

/-- A change that was written read a document, and its step took the router's list. -/
theorem update_applied_inv {es : List String} {st' : Store} (h : o.update st key step = .applied es st') :
    ∃ ms, st.updateError = none ∧ decodeDocument key (st.lookup key) = .ok (some ms) ∧
      step ((Document.list (some ms) o.router).getD []) = .ok es ∧
      st' = st.set key (renderDocument (putMember o.router (renderList es) ms)) := by
  unfold Lists.update at h
  cases hu : st.updateError with
  | some e => simp [hu] at h
  | none =>
    rcases hd : decodeDocument key (st.lookup key) with f | doc
    · simp [hu, hd] at h
    · simp only [hu, hd] at h
      split at h
      · cases h
      · next l hs =>
        cases doc with
        | none => cases h
        | some ms =>
          cases h
          exact ⟨ms, rfl, rfl, hs, rfl⟩

end Changes

end NetFleet.Overlay
