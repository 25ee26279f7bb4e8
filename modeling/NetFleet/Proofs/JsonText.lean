import Mathlib
import NetFleet.Proofs.JsonTokens

/-!
# The text of a JSON value

`Text c v` says that `c` is the text of the value `v`, without blanks around it;
`Items` and `Members` are the texts between the brackets of a non-empty array
and the braces of a non-empty object, blanks around each item, name and value
included. The grammar has no depth: how deeply a value nests is its `height`,
and the reader takes a value at nesting `d` exactly when `d + height v` stays
within `maxDepth`.

The reader and the grammar agree in both directions:

* `Text.read`: the text of a value, after blanks and before anything that does
  not continue a number, is read as that value and nothing more;
* `readValue_sound`: whatever the reader returns is read from the text of that
  value, after blanks;
* `Text.read_tooDeep`: a value nested too deep is refused with `tooDeep`, the
  one error that names no character.

`Json.parse` and `Json.parseFirst` are then described by the grammar alone
(`parse_text`, `parse_sound`, `parseFirst_text`).
-/

namespace NetFleet.Json

/-! ### The grammar -/

mutual

/-- The text `c` of the value `v`, without blanks around it. -/
inductive Text : List Char → Json → Prop
  | null : Text ['n', 'u', 'l', 'l'] .null
  | true_ : Text ['t', 'r', 'u', 'e'] (.bool true)
  | false_ : Text ['f', 'a', 'l', 's', 'e'] (.bool false)
  | num {lit : List Char} : NumText lit → Text lit (.num (String.ofList lit))
  | str {b s : List Char} : Body b s → Text ('"' :: b ++ ['"']) (.str (String.ofList s))
  | arrNil {ws : List Char} : Blanks ws → Text ('[' :: ws ++ [']']) (.arr [])
  | arr {t : List Char} {vs : List Json} : Items t vs → Text ('[' :: t ++ [']']) (.arr vs)
  | objNil {ws : List Char} : Blanks ws → Text ('{' :: ws ++ ['}']) (.obj [])
  | obj {t : List Char} {ms : List (String × Json)} : Members t ms → Text ('{' :: t ++ ['}']) (.obj ms)

/-- The items of a non-empty array, separated by commas, each with blanks around it. -/
inductive Items : List Char → List Json → Prop
  | last {ws c ws' : List Char} {v : Json} : Blanks ws → Text c v → Blanks ws' →
      Items (ws ++ c ++ ws') [v]
  | cons {ws c ws' t : List Char} {v : Json} {vs : List Json} : Blanks ws → Text c v → Blanks ws' →
      Items t vs → Items (ws ++ c ++ ws' ++ ',' :: t) (v :: vs)

/-- The members of a non-empty object: a name, a colon and a value, separated by
commas, with blanks around each name and value. -/
inductive Members : List Char → List (String × Json) → Prop
  | last {ws₁ kc ws₂ ws₃ c ws₄ : List Char} {k : String} {v : Json} : Blanks ws₁ → Text kc (.str k) →
      Blanks ws₂ → Blanks ws₃ → Text c v → Blanks ws₄ →
      Members (ws₁ ++ kc ++ ws₂ ++ ':' :: ws₃ ++ c ++ ws₄) [(k, v)]
  | cons {ws₁ kc ws₂ ws₃ c ws₄ t : List Char} {k : String} {v : Json} {ms : List (String × Json)} :
      Blanks ws₁ → Text kc (.str k) → Blanks ws₂ → Blanks ws₃ → Text c v → Blanks ws₄ → Members t ms →
      Members (ws₁ ++ kc ++ ws₂ ++ ':' :: ws₃ ++ c ++ ws₄ ++ ',' :: t) ((k, v) :: ms)

end

mutual

/-- How deeply arrays and objects nest in a value: `0` for a scalar. -/
def height : Json → Nat
  | .arr vs => heightItems vs + 1
  | .obj ms => heightMembers ms + 1
  | _ => 0

/-- The greatest height of the items of an array. -/
def heightItems : List Json → Nat
  | [] => 0
  | v :: vs => max (height v) (heightItems vs)

/-- The greatest height of the values of an object. -/
def heightMembers : List (String × Json) → Nat
  | [] => 0
  | (_, v) :: ms => max (height v) (heightMembers ms)

end

/-! ### The first character of a value -/

/-- Whether a character can open a value: it is none of the characters that end
or separate values, nor a blank. -/
def opens (c : Char) : Bool := !isBlank c && c != ']' && c != '}' && c != ',' && c != ':'

theorem opens_of_isDigit {x : Char} (h : isDigit x = true) : opens x = true := by
  have hx : 48 ≤ x.toNat ∧ x.toNat ≤ 57 := by
    simp only [isDigit, Bool.and_eq_true, decide_eq_true_eq, Char.le_def, UInt32.le_iff_toNat_le] at h
    exact h
  -- a digit is none of the characters that stop a value
  have hne : ∀ c : Char, (c.toNat < 48 ∨ 57 < c.toNat) → x ≠ c := by
    rintro c hc rfl
    omega
  simp [opens, isBlank, hne ' ' (by decide), hne '\t' (by decide), hne '\n' (by decide),
    hne '\r' (by decide), hne ']' (by decide), hne '}' (by decide), hne ',' (by decide), hne ':' (by decide)]

theorem blank_of_opens {x : Char} (h : opens x = true) : isBlank x = false := by
  simp only [opens, Bool.and_eq_true, Bool.not_eq_true'] at h
  exact h.1.1.1.1

theorem Text.head {c : List Char} {v : Json} (h : Text c v) : ∃ x r, c = x :: r ∧ opens x = true := by
  cases h
  case num hl =>
    obtain ⟨x, r, rfl, rfl | hx⟩ := hl.head
    · exact ⟨'-', _, rfl, rfl⟩
    · exact ⟨x, _, rfl, opens_of_isDigit hx⟩
  all_goals exact ⟨_, _, rfl, rfl⟩

/-! ### Steps of the reader -/

theorem readValue_blanks {ws : List Char} (h : Blanks ws) (fuel d : Nat) (cs : List Char) :
    readValue fuel d (ws ++ cs) = readValue fuel d cs := by
  cases fuel with
  | zero => simp [readValue]
  | succ f => rw [readValue, readValue, skipBlanks_append h]

theorem readItems_close {f d : Nat} {acc : List Json} {cs after rest : List Char} {v : Json}
    (hv : readValue f d cs = .ok (v, after)) (hc : skipBlanks after = ']' :: rest) :
    readItems (f + 1) d acc cs = .ok (.arr (v :: acc).reverse, rest) := by
  simp [readItems, hv, hc]

theorem readItems_next {f d : Nat} {acc : List Json} {cs after more : List Char} {v : Json}
    (hv : readValue f d cs = .ok (v, after)) (hc : skipBlanks after = ',' :: more) :
    readItems (f + 1) d acc cs = readItems f d (v :: acc) more := by
  simp [readItems, hv, hc]

theorem readItems_error {f d : Nat} {acc : List Json} {cs : List Char} {e : SyntaxError}
    (hv : readValue f d cs = .error e) : readItems (f + 1) d acc cs = .error e := by
  simp [readItems, hv]

/-- The name of a member and its colon are read at once: what follows is its value. -/
theorem readMembers_name {ws₁ b s ws₂ : List Char} (h₁ : Blanks ws₁) (hb : Body b s) (h₂ : Blanks ws₂)
    (r : List Char) :
    readString ((b ++ '"' :: (ws₂ ++ ':' :: r)).length + 1) [] (b ++ '"' :: (ws₂ ++ ':' :: r)) =
        .ok (String.ofList s, ws₂ ++ ':' :: r) ∧
      skipBlanks (ws₁ ++ '"' :: (b ++ '"' :: (ws₂ ++ ':' :: r))) = '"' :: (b ++ '"' :: (ws₂ ++ ':' :: r)) ∧
      skipBlanks (ws₂ ++ ':' :: r) = ':' :: r := by
  refine ⟨by simpa using hb.read [] (ws₂ ++ ':' :: r) _ (by simp), ?_, ?_⟩
  · rw [skipBlanks_append h₁]
    rfl
  · rw [skipBlanks_append h₂]
    rfl

theorem readMembers_close {f d : Nat} {acc : List (String × Json)} {ws₁ b s ws₂ r after rest : List Char}
    {v : Json} (h₁ : Blanks ws₁) (hb : Body b s) (h₂ : Blanks ws₂)
    (hv : readValue f d r = .ok (v, after)) (hc : skipBlanks after = '}' :: rest) :
    readMembers (f + 1) d acc (ws₁ ++ '"' :: b ++ '"' :: ws₂ ++ ':' :: r) =
      .ok (.obj ((String.ofList s, v) :: acc).reverse, rest) := by
  obtain ⟨hk, hs₁, hs₂⟩ := readMembers_name h₁ hb h₂ r
  simp only [readMembers, List.append_assoc, List.cons_append, hs₁]
  rw [hk]
  simp [hs₂, hv, hc]

theorem readMembers_next {f d : Nat} {acc : List (String × Json)} {ws₁ b s ws₂ r after more : List Char}
    {v : Json} (h₁ : Blanks ws₁) (hb : Body b s) (h₂ : Blanks ws₂)
    (hv : readValue f d r = .ok (v, after)) (hc : skipBlanks after = ',' :: more) :
    readMembers (f + 1) d acc (ws₁ ++ '"' :: b ++ '"' :: ws₂ ++ ':' :: r) =
      readMembers f d ((String.ofList s, v) :: acc) more := by
  obtain ⟨hk, hs₁, hs₂⟩ := readMembers_name h₁ hb h₂ r
  simp only [readMembers, List.append_assoc, List.cons_append, hs₁]
  rw [hk]
  simp [hs₂, hv, hc]

theorem readMembers_error {f d : Nat} {acc : List (String × Json)} {ws₁ b s ws₂ r : List Char}
    {e : SyntaxError} (h₁ : Blanks ws₁) (hb : Body b s) (h₂ : Blanks ws₂)
    (hv : readValue f d r = .error e) :
    readMembers (f + 1) d acc (ws₁ ++ '"' :: b ++ '"' :: ws₂ ++ ':' :: r) = .error e := by
  obtain ⟨hk, hs₁, hs₂⟩ := readMembers_name h₁ hb h₂ r
  simp only [readMembers, List.append_assoc, List.cons_append, hs₁]
  rw [hk]
  simp [hs₂, hv]

theorem readValue_null (f d : Nat) (rest : List Char) :
    readValue (f + 1) d (['n', 'u', 'l', 'l'] ++ rest) = .ok (.null, rest) := by
  simp [readValue, skipBlanks, isBlank, isDigit, readWord, readWord.go, Except.map]

theorem readValue_true (f d : Nat) (rest : List Char) :
    readValue (f + 1) d (['t', 'r', 'u', 'e'] ++ rest) = .ok (.bool true, rest) := by
  simp [readValue, skipBlanks, isBlank, isDigit, readWord, readWord.go, Except.map]

theorem readValue_false (f d : Nat) (rest : List Char) :
    readValue (f + 1) d (['f', 'a', 'l', 's', 'e'] ++ rest) = .ok (.bool false, rest) := by
  simp [readValue, skipBlanks, isBlank, isDigit, readWord, readWord.go, Except.map]

theorem readValue_str {b s : List Char} (hb : Body b s) (f d : Nat) (rest : List Char) :
    readValue (f + 1) d ('"' :: b ++ '"' :: rest) = .ok (.str (String.ofList s), rest) := by
  rw [List.cons_append, readValue, skipBlanks_cons rfl]
  simp only [Char.reduceEq, decide_false, Bool.or_self, Bool.false_and, Bool.false_eq_true, ↓reduceIte]
  rw [hb.read [] rest]
  · simp
  · simp

theorem readValue_num {lit rest : List Char} (hl : NumText lit) (hr : Follows rest) (f d : Nat) :
    readValue (f + 1) d (lit ++ rest) = .ok (.num (String.ofList lit), rest) := by
  obtain ⟨x, r, rfl, hx⟩ := hl.head
  have hn : ¬ (x = '{' ∨ x = '[' ∨ x = '"') := by
    rcases hx with rfl | hx
    · decide
    · exact fun h => by rcases h with rfl | rfl | rfl <;> simp [isDigit] at hx
  have hb : isBlank x = false := by
    rcases hx with rfl | hx
    · rfl
    · exact blank_of_opens (opens_of_isDigit hx)
  have hread := readNumber_read hl hr
  simp only [List.cons_append] at hread
  simp only [readValue, List.cons_append, skipBlanks, hb]
  simp_all

theorem readValue_arr {d : Nat} (hd : d < maxDepth) (f : Nat) (cs : List Char) :
    readValue (f + 1) d ('[' :: cs) = readArray f (d + 1) cs := by
  rw [readValue, skipBlanks_cons rfl]
  simp [Nat.not_le.2 hd]

theorem readValue_obj {d : Nat} (hd : d < maxDepth) (f : Nat) (cs : List Char) :
    readValue (f + 1) d ('{' :: cs) = readObject f (d + 1) cs := by
  rw [readValue, skipBlanks_cons rfl]
  simp [Nat.not_le.2 hd]

theorem readValue_arr_tooDeep {d : Nat} (hd : maxDepth ≤ d) (f : Nat) (cs : List Char) :
    readValue (f + 1) d ('[' :: cs) = .error .tooDeep := by
  rw [readValue, skipBlanks_cons rfl]
  simp [hd]

theorem readValue_obj_tooDeep {d : Nat} (hd : maxDepth ≤ d) (f : Nat) (cs : List Char) :
    readValue (f + 1) d ('{' :: cs) = .error .tooDeep := by
  rw [readValue, skipBlanks_cons rfl]
  simp [hd]

theorem readArray_nil {ws : List Char} (h : Blanks ws) (f d : Nat) (rest : List Char) :
    readArray (f + 1) d (ws ++ ']' :: rest) = .ok (.arr [], rest) := by
  rw [readArray, skipBlanks_append h]
  rfl

theorem readArray_items {cs : List Char} {x : Char} {r : List Char} (hs : skipBlanks cs = x :: r)
    (hx : x ≠ ']') (f d : Nat) : readArray (f + 1) d cs = readItems f d [] cs := by
  rw [readArray, hs]
  simp [hx]

theorem readObject_nil {ws : List Char} (h : Blanks ws) (f d : Nat) (rest : List Char) :
    readObject (f + 1) d (ws ++ '}' :: rest) = .ok (.obj [], rest) := by
  rw [readObject, skipBlanks_append h]
  rfl

theorem readObject_members {cs : List Char} {x : Char} {r : List Char} (hs : skipBlanks cs = x :: r)
    (hx : x ≠ '}') (f d : Nat) : readObject (f + 1) d cs = readMembers f d [] cs := by
  rw [readObject, hs]
  simp [hx]

theorem ne_of_opens {x : Char} (h : opens x = true) : x ≠ ']' ∧ x ≠ '}' := by
  simp only [opens, Bool.and_eq_true, bne_iff_ne] at h
  exact ⟨h.1.1.1.2, h.1.1.2⟩

theorem Text.length_pos {c : List Char} {v : Json} (h : Text c v) : 0 < c.length := by
  obtain ⟨x, r, rfl, -⟩ := h.head
  simp

theorem Text.skipBlanks {c : List Char} {v : Json} (h : Text c v) {ws : List Char} (hws : Blanks ws)
    (u : List Char) : ∃ x r, skipBlanks (ws ++ c ++ u) = x :: r ∧ opens x = true := by
  obtain ⟨x, r, rfl, hx⟩ := h.head
  refine ⟨x, r ++ u, ?_, hx⟩
  rw [List.append_assoc, skipBlanks_append hws, List.cons_append, skipBlanks_cons (blank_of_opens hx)]

theorem Items.skipBlanks {t : List Char} {vs : List Json} (h : Items t vs) (u : List Char) :
    ∃ x r, skipBlanks (t ++ u) = x :: r ∧ opens x = true := by
  cases h with
  | last hws hc _ => simpa using hc.skipBlanks hws (_ ++ u)
  | cons hws hc _ _ => simpa using hc.skipBlanks hws (_ ++ ',' :: _ ++ u)

theorem Members.skipBlanks {t : List Char} {ms : List (String × Json)} (h : Members t ms) (u : List Char) :
    ∃ x r, skipBlanks (t ++ u) = x :: r ∧ opens x = true := by
  cases h with
  | @last ws₁ kc ws₂ ws₃ c ws₄ k v hws hk _ _ _ _ =>
    simpa using hk.skipBlanks hws (ws₂ ++ ':' :: (ws₃ ++ c ++ ws₄) ++ u)
  | @cons ws₁ kc ws₂ ws₃ c ws₄ t k v ms hws hk _ _ _ _ _ =>
    simpa using hk.skipBlanks hws (ws₂ ++ ':' :: (ws₃ ++ c ++ ws₄ ++ ',' :: t) ++ u)

/-- The text of a name: a string. -/
theorem Text.str_inv {kc : List Char} {k : String} (h : Text kc (.str k)) :
    ∃ b s, kc = '"' :: b ++ ['"'] ∧ Body b s ∧ k = String.ofList s := by
  cases h with
  | str hb => exact ⟨_, _, rfl, hb, rfl⟩

/-- What may follow a value inside an array or object: blanks, then a comma or a
closing bracket. -/
theorem follows_blanks_close {ws : List Char} (h : Blanks ws) {x : Char} (hx : x = ',' ∨ x = ']' ∨ x = '}')
    (rest : List Char) : Follows (ws ++ x :: rest) := by
  refine follows_blanks_append h (follows_cons ?_)
  rcases hx with rfl | rfl | rfl <;> rfl

/-! ### The reader takes every text of the grammar -/

mutual

/-- The text of a value is read as that value, at any nesting that leaves room
for its height, with fuel for twice its length. -/
theorem Text.read {c : List Char} {v : Json} (h : Text c v) (fuel d : Nat) (rest : List Char)
    (hr : Follows rest) (hd : d + height v ≤ maxDepth) (hf : 2 * c.length ≤ fuel) :
    readValue fuel d (c ++ rest) = .ok (v, rest) := by
  obtain ⟨f, rfl⟩ : ∃ f, fuel = f + 1 := ⟨fuel - 1, by have := h.length_pos; omega⟩
  match h with
  | .null => exact readValue_null f d rest
  | .true_ => exact readValue_true f d rest
  | .false_ => exact readValue_false f d rest
  | .num hl => exact readValue_num hl hr f d
  | .str hb => simpa using readValue_str hb f d rest
  | .arrNil hws =>
    simp only [height, heightItems] at hd
    obtain ⟨g, rfl⟩ : ∃ g, f = g + 1 := ⟨f - 1, by simp at hf; omega⟩
    simp only [List.cons_append, List.append_assoc, List.nil_append]
    rw [readValue_arr (by omega)]
    exact readArray_nil hws g (d + 1) rest
  | .arr hi =>
    simp only [height] at hd
    obtain ⟨g, rfl⟩ : ∃ g, f = g + 1 := ⟨f - 1, by simp at hf; omega⟩
    simp only [List.cons_append, List.append_assoc, List.nil_append]
    rw [readValue_arr (by omega)]
    obtain ⟨x, r, hs, hx⟩ := hi.skipBlanks (']' :: rest)
    rw [readArray_items hs (ne_of_opens hx).1]
    simpa using hi.read g (d + 1) [] rest (by omega) (by simp at hf; omega)
  | .objNil hws =>
    simp only [height, heightMembers] at hd
    obtain ⟨g, rfl⟩ : ∃ g, f = g + 1 := ⟨f - 1, by simp at hf; omega⟩
    simp only [List.cons_append, List.append_assoc, List.nil_append]
    rw [readValue_obj (by omega)]
    exact readObject_nil hws g (d + 1) rest
  | .obj hm =>
    simp only [height] at hd
    obtain ⟨g, rfl⟩ : ∃ g, f = g + 1 := ⟨f - 1, by simp at hf; omega⟩
    simp only [List.cons_append, List.append_assoc, List.nil_append]
    rw [readValue_obj (by omega)]
    obtain ⟨x, r, hs, hx⟩ := hm.skipBlanks ('}' :: rest)
    rw [readObject_members hs (ne_of_opens hx).2]
    simpa using hm.read g (d + 1) [] rest (by omega) (by simp at hf; omega)

/-- The items of an array and its closing bracket are read as those items, after
the items read so far. -/
theorem Items.read {t : List Char} {vs : List Json} (h : Items t vs) (fuel d : Nat) (acc : List Json)
    (rest : List Char) (hd : d + heightItems vs ≤ maxDepth) (hf : 2 * t.length + 1 ≤ fuel) :
    readItems fuel d acc (t ++ ']' :: rest) = .ok (.arr (acc.reverse ++ vs), rest) := by
  obtain ⟨f, rfl⟩ : ∃ f, fuel = f + 1 := ⟨fuel - 1, by omega⟩
  match h with
  | @Items.last ws c ws' v hws hc hws' =>
    simp only [heightItems] at hd
    have hv : readValue f d (ws ++ c ++ (ws' ++ ']' :: rest)) = .ok (v, ws' ++ ']' :: rest) := by
      rw [List.append_assoc, readValue_blanks hws]
      exact hc.read f d _ (follows_blanks_close hws' (by simp) rest) (by omega) (by simp at hf; omega)
    rw [List.append_assoc, readItems_close hv (by rw [skipBlanks_append hws']; rfl)]
    simp
  | @Items.cons ws c ws' t' v vs' hws hc hws' ht =>
    simp only [heightItems] at hd
    have hv : readValue f d (ws ++ c ++ (ws' ++ ',' :: (t' ++ ']' :: rest))) =
        .ok (v, ws' ++ ',' :: (t' ++ ']' :: rest)) := by
      rw [List.append_assoc, readValue_blanks hws]
      exact hc.read f d _ (follows_blanks_close hws' (by simp) _) (by omega) (by simp at hf; omega)
    rw [show ws ++ c ++ ws' ++ ',' :: t' ++ ']' :: rest = ws ++ c ++ (ws' ++ ',' :: (t' ++ ']' :: rest)) by simp,
      readItems_next hv (by rw [skipBlanks_append hws']; rfl)]
    simpa using ht.read f d (v :: acc) rest (by omega) (by simp at hf; omega)

/-- The members of an object and its closing brace are read as those members,
after the members read so far. -/
theorem Members.read {t : List Char} {ms : List (String × Json)} (h : Members t ms) (fuel d : Nat)
    (acc : List (String × Json)) (rest : List Char) (hd : d + heightMembers ms ≤ maxDepth)
    (hf : 2 * t.length + 1 ≤ fuel) :
    readMembers fuel d acc (t ++ '}' :: rest) = .ok (.obj (acc.reverse ++ ms), rest) := by
  obtain ⟨f, rfl⟩ : ∃ f, fuel = f + 1 := ⟨fuel - 1, by omega⟩
  match h with
  | @Members.last ws₁ kc ws₂ ws₃ c ws₄ k v hws₁ hk hws₂ hws₃ hc hws₄ =>
    simp only [heightMembers] at hd
    obtain ⟨b, s, rfl, hb, rfl⟩ := hk.str_inv
    have hv : readValue f d (ws₃ ++ c ++ (ws₄ ++ '}' :: rest)) = .ok (v, ws₄ ++ '}' :: rest) := by
      rw [List.append_assoc, readValue_blanks hws₃]
      exact hc.read f d _ (follows_blanks_close hws₄ (by simp) rest) (by omega) (by simp at hf; omega)
    rw [show ws₁ ++ ('"' :: b ++ ['"']) ++ ws₂ ++ ':' :: ws₃ ++ c ++ ws₄ ++ '}' :: rest =
      ws₁ ++ '"' :: b ++ '"' :: ws₂ ++ ':' :: (ws₃ ++ c ++ (ws₄ ++ '}' :: rest)) by simp,
      readMembers_close hws₁ hb hws₂ hv (by rw [skipBlanks_append hws₄]; rfl)]
    simp
  | @Members.cons ws₁ kc ws₂ ws₃ c ws₄ t' k v ms' hws₁ hk hws₂ hws₃ hc hws₄ ht =>
    simp only [heightMembers] at hd
    obtain ⟨b, s, rfl, hb, rfl⟩ := hk.str_inv
    have hv : readValue f d (ws₃ ++ c ++ (ws₄ ++ ',' :: (t' ++ '}' :: rest))) =
        .ok (v, ws₄ ++ ',' :: (t' ++ '}' :: rest)) := by
      rw [List.append_assoc, readValue_blanks hws₃]
      exact hc.read f d _ (follows_blanks_close hws₄ (by simp) _) (by omega) (by simp at hf; omega)
    rw [show ws₁ ++ ('"' :: b ++ ['"']) ++ ws₂ ++ ':' :: ws₃ ++ c ++ ws₄ ++ ',' :: t' ++ '}' :: rest =
      ws₁ ++ '"' :: b ++ '"' :: ws₂ ++ ':' :: (ws₃ ++ c ++ (ws₄ ++ ',' :: (t' ++ '}' :: rest))) by simp,
      readMembers_next hws₁ hb hws₂ hv (by rw [skipBlanks_append hws₄]; rfl)]
    simpa using ht.read f d ((String.ofList s, v) :: acc) rest (by omega) (by simp at hf; omega)

end

/-! ### The reader takes nothing but texts of the grammar -/

theorem readWord_sound {word : String} {j v : Json} {r rest : List Char}
    (h : (readWord word r).map (j, ·) = .ok (v, rest)) : v = j ∧ r = word.toList.drop 1 ++ rest := by
  cases hw : readWord word r with
  | error e => simp [hw, Except.map] at h
  | ok r' =>
    simp only [hw, Except.map, Except.ok.injEq, Prod.mk.injEq] at h
    obtain ⟨rfl, rfl⟩ := h
    exact ⟨rfl, readWord_go_sound hw⟩

mutual

theorem readValue_sound : ∀ {fuel d : Nat} {cs rest : List Char} {v : Json}, d ≤ maxDepth →
    readValue fuel d cs = .ok (v, rest) →
      ∃ ws c, cs = ws ++ c ++ rest ∧ Blanks ws ∧ Text c v ∧ d + height v ≤ maxDepth
  | 0, _, _, _, _, _, h => by simp [readValue] at h
  | f + 1, d, cs, rest, v, hd, h => by
    obtain ⟨ws, hws, hcs, -⟩ := skipBlanks_spec cs
    generalize hsk : skipBlanks cs = cs' at hcs
    subst hcs
    rw [readValue, hsk] at h
    split at h
    · cases h
    next _ x r =>
    split at h
    · cases h
    next hdeep =>
    split at h
    · -- an object
      next hx =>
      subst hx
      have hd' : d + 1 ≤ maxDepth := by simp at hdeep; omega
      obtain ⟨t, rfl, ht, hh⟩ := readObject_sound hd' h
      exact ⟨ws, _, by simp, hws, ht, by omega⟩
    split at h
    · -- an array
      next hx₁ hx =>
      subst hx
      have hd' : d + 1 ≤ maxDepth := by simp at hdeep; omega
      obtain ⟨t, rfl, ht, hh⟩ := readArray_sound hd' h
      exact ⟨ws, _, by simp, hws, ht, by omega⟩
    split at h
    · -- a string
      next hx =>
      subst hx
      split at h
      · next s after hs =>
        simp only [Except.ok.injEq, Prod.mk.injEq] at h
        obtain ⟨rfl, rfl⟩ := h
        obtain ⟨b, s', rfl, hb, rfl⟩ := readString_sound hs
        exact ⟨ws, '"' :: b ++ ['"'], by simp, hws, by simpa using Text.str hb, by simp [height]; omega⟩
      · cases h
    split at h
    · -- a number
      next hx =>
      split at h
      · next lit after hn =>
        simp only [Except.ok.injEq, Prod.mk.injEq] at h
        obtain ⟨rfl, rfl⟩ := h
        obtain ⟨l, heq, hl, rfl⟩ := readNumber_sound hn
        exact ⟨ws, l, by simp [heq], hws, .num hl, by simp [height]; omega⟩
      · cases h
    split at h
    · -- true
      next hx =>
      subst hx
      obtain ⟨rfl, rfl⟩ := readWord_sound h
      exact ⟨ws, ['t', 'r', 'u', 'e'], by simp, hws, .true_, by simp [height]; omega⟩
    split at h
    · -- false
      next hx =>
      subst hx
      obtain ⟨rfl, rfl⟩ := readWord_sound h
      exact ⟨ws, ['f', 'a', 'l', 's', 'e'], by simp, hws, .false_, by simp [height]; omega⟩
    split at h
    · -- null
      next hx =>
      subst hx
      obtain ⟨rfl, rfl⟩ := readWord_sound h
      exact ⟨ws, ['n', 'u', 'l', 'l'], by simp, hws, .null, by simp [height]; omega⟩
    · cases h

theorem readArray_sound : ∀ {fuel d : Nat} {cs rest : List Char} {v : Json}, d ≤ maxDepth →
    readArray fuel d cs = .ok (v, rest) →
      ∃ t, cs = t ++ ']' :: rest ∧ Text ('[' :: t ++ [']']) v ∧ d + height v ≤ maxDepth + 1
  | 0, _, _, _, _, _, h => by simp [readArray] at h
  | f + 1, d, cs, rest, v, hd, h => by
    rw [readArray] at h
    split at h
    · next r hr =>
      simp only [Except.ok.injEq, Prod.mk.injEq] at h
      obtain ⟨rfl, rfl⟩ := h
      obtain ⟨ws, hws, hcs, -⟩ := skipBlanks_spec cs
      rw [hr] at hcs
      exact ⟨ws, hcs, .arrNil hws, by simp [height, heightItems]; omega⟩
    · obtain ⟨t, vs, rfl, hi, rfl, hh⟩ := readItems_sound hd h
      exact ⟨t, rfl, by simpa using Text.arr hi, by simp [height]; omega⟩

theorem readItems_sound : ∀ {fuel d : Nat} {acc : List Json} {cs rest : List Char} {v : Json}, d ≤ maxDepth →
    readItems fuel d acc cs = .ok (v, rest) →
      ∃ t vs, cs = t ++ ']' :: rest ∧ Items t vs ∧ v = .arr (acc.reverse ++ vs) ∧ d + heightItems vs ≤ maxDepth
  | 0, _, _, _, _, _, _, h => by simp [readItems] at h
  | f + 1, d, acc, cs, rest, v, hd, h => by
    rw [readItems] at h
    split at h
    · cases h
    next w after hw =>
    obtain ⟨ws, c, rfl, hws, hc, hh⟩ := readValue_sound hd hw
    obtain ⟨ws', hws', hafter, -⟩ := skipBlanks_spec after
    generalize hsk : skipBlanks after = a' at hafter h
    subst hafter
    split at h
    · cases h
    next _ x r =>
    split at h
    · -- a comma: more items follow
      next hx =>
      subst hx
      obtain ⟨t, vs, rfl, hi, rfl, hh'⟩ := readItems_sound hd h
      exact ⟨ws ++ c ++ ws' ++ ',' :: t, w :: vs, by simp, .cons hws hc hws' hi, by simp,
        by simp [heightItems]; omega⟩
    split at h
    · -- the closing bracket
      next hx₁ hx =>
      subst hx
      simp only [Except.ok.injEq, Prod.mk.injEq] at h
      obtain ⟨rfl, rfl⟩ := h
      exact ⟨ws ++ c ++ ws', [w], by simp, .last hws hc hws', by simp, by simp [heightItems]; omega⟩
    · cases h

theorem readObject_sound : ∀ {fuel d : Nat} {cs rest : List Char} {v : Json}, d ≤ maxDepth →
    readObject fuel d cs = .ok (v, rest) →
      ∃ t, cs = t ++ '}' :: rest ∧ Text ('{' :: t ++ ['}']) v ∧ d + height v ≤ maxDepth + 1
  | 0, _, _, _, _, _, h => by simp [readObject] at h
  | f + 1, d, cs, rest, v, hd, h => by
    rw [readObject] at h
    split at h
    · next r hr =>
      simp only [Except.ok.injEq, Prod.mk.injEq] at h
      obtain ⟨rfl, rfl⟩ := h
      obtain ⟨ws, hws, hcs, -⟩ := skipBlanks_spec cs
      rw [hr] at hcs
      exact ⟨ws, hcs, .objNil hws, by simp [height, heightMembers]; omega⟩
    · obtain ⟨t, ms, rfl, hm, rfl, hh⟩ := readMembers_sound hd h
      exact ⟨t, rfl, by simpa using Text.obj hm, by simp [height]; omega⟩

theorem readMembers_sound : ∀ {fuel d : Nat} {acc : List (String × Json)} {cs rest : List Char} {v : Json},
    d ≤ maxDepth → readMembers fuel d acc cs = .ok (v, rest) →
      ∃ t ms, cs = t ++ '}' :: rest ∧ Members t ms ∧ v = .obj (acc.reverse ++ ms) ∧
        d + heightMembers ms ≤ maxDepth
  | 0, _, _, _, _, _, _, h => by simp [readMembers] at h
  | f + 1, d, acc, cs, rest, v, hd, h => by
    rw [readMembers] at h
    obtain ⟨ws₁, hws₁, hcs, -⟩ := skipBlanks_spec cs
    generalize hsk : skipBlanks cs = cs' at hcs h
    subst hcs
    split at h
    · cases h
    next _ x r =>
    split at h
    · cases h
    next hx =>
    simp only [ne_eq, Decidable.not_not] at hx
    subst hx
    -- the name
    split at h
    · cases h
    next k afterKey hk =>
    obtain ⟨b, s, rfl, hb, rfl⟩ := readString_sound hk
    have hkey : Text ('"' :: b ++ ['"']) (.str (String.ofList ([].reverse ++ s))) := by
      simpa using Text.str hb
    obtain ⟨ws₂, hws₂, hak, -⟩ := skipBlanks_spec afterKey
    generalize hsk₂ : skipBlanks afterKey = a' at hak h
    subst hak
    split at h
    · cases h
    next _ y r' =>
    split at h
    · cases h
    next hy =>
    simp only [ne_eq, Decidable.not_not] at hy
    subst hy
    -- the value
    split at h
    · cases h
    next w after hw =>
    obtain ⟨ws₃, c, rfl, hws₃, hc, hh⟩ := readValue_sound hd hw
    obtain ⟨ws₄, hws₄, hafter, -⟩ := skipBlanks_spec after
    generalize hsk₃ : skipBlanks after = a'' at hafter h
    subst hafter
    split at h
    · cases h
    next _ z r'' =>
    split at h
    · -- a comma: more members follow
      next hz =>
      subst hz
      obtain ⟨t, ms, rfl, hm, rfl, hh'⟩ := readMembers_sound hd h
      exact ⟨ws₁ ++ ('"' :: b ++ ['"']) ++ ws₂ ++ ':' :: ws₃ ++ c ++ ws₄ ++ ',' :: t, _ :: ms, by simp,
        .cons hws₁ hkey hws₂ hws₃ hc hws₄ hm, by simp, by simp [heightMembers]; omega⟩
    split at h
    · -- the closing brace
      next hz₁ hz =>
      subst hz
      simp only [Except.ok.injEq, Prod.mk.injEq] at h
      obtain ⟨rfl, rfl⟩ := h
      exact ⟨ws₁ ++ ('"' :: b ++ ['"']) ++ ws₂ ++ ':' :: ws₃ ++ c ++ ws₄, [_], by simp,
        .last hws₁ hkey hws₂ hws₃ hc hws₄, by simp, by simp [heightMembers]; omega⟩
    · cases h

end

/-! ### A value nested too deep -/

mutual

/-- A value that nests deeper than the reader allows is refused with `tooDeep`:
the text before its deepest bracket reads without error. -/
theorem Text.read_tooDeep {c : List Char} {v : Json} (h : Text c v) (fuel d : Nat) (rest : List Char)
    (hd : d ≤ maxDepth) (hdeep : maxDepth < d + height v) (hf : 2 * c.length ≤ fuel) :
    readValue fuel d (c ++ rest) = .error .tooDeep := by
  obtain ⟨f, rfl⟩ : ∃ f, fuel = f + 1 := ⟨fuel - 1, by have := h.length_pos; omega⟩
  match h with
  | .null | .true_ | .false_ | .num _ | .str _ => simp [height] at hdeep; omega
  | .arrNil _ =>
    -- an empty array is too deep only where it opens
    simp only [height, heightItems] at hdeep
    simp only [List.cons_append, List.append_assoc, List.nil_append]
    exact readValue_arr_tooDeep (by omega) f _
  | .arr hi =>
    simp only [height] at hdeep
    simp only [List.cons_append, List.append_assoc, List.nil_append]
    rcases Nat.lt_or_ge d maxDepth with hlt | hge
    · rw [readValue_arr hlt]
      obtain ⟨g, rfl⟩ : ∃ g, f = g + 1 := ⟨f - 1, by simp at hf; omega⟩
      obtain ⟨x, r, hs, hx⟩ := hi.skipBlanks (']' :: rest)
      rw [readArray_items hs (ne_of_opens hx).1]
      exact hi.read_tooDeep g (d + 1) [] rest (by omega) (by omega) (by simp at hf; omega)
    · exact readValue_arr_tooDeep hge f _
  | .objNil _ =>
    simp only [height, heightMembers] at hdeep
    simp only [List.cons_append, List.append_assoc, List.nil_append]
    exact readValue_obj_tooDeep (by omega) f _
  | .obj hm =>
    simp only [height] at hdeep
    simp only [List.cons_append, List.append_assoc, List.nil_append]
    rcases Nat.lt_or_ge d maxDepth with hlt | hge
    · rw [readValue_obj hlt]
      obtain ⟨g, rfl⟩ : ∃ g, f = g + 1 := ⟨f - 1, by simp at hf; omega⟩
      obtain ⟨x, r, hs, hx⟩ := hm.skipBlanks ('}' :: rest)
      rw [readObject_members hs (ne_of_opens hx).2]
      exact hm.read_tooDeep g (d + 1) [] rest (by omega) (by omega) (by simp at hf; omega)
    · exact readValue_obj_tooDeep hge f _

theorem Items.read_tooDeep {t : List Char} {vs : List Json} (h : Items t vs) (fuel d : Nat) (acc : List Json)
    (rest : List Char) (hd : d ≤ maxDepth) (hdeep : maxDepth < d + heightItems vs)
    (hf : 2 * t.length + 1 ≤ fuel) :
    readItems fuel d acc (t ++ ']' :: rest) = .error .tooDeep := by
  obtain ⟨f, rfl⟩ : ∃ f, fuel = f + 1 := ⟨fuel - 1, by omega⟩
  match h with
  | @Items.last ws c ws' v hws hc hws' =>
    simp only [heightItems] at hdeep
    have hv : readValue f d (ws ++ c ++ (ws' ++ ']' :: rest)) = .error .tooDeep := by
      rw [List.append_assoc, readValue_blanks hws]
      exact hc.read_tooDeep f d _ hd (by omega) (by simp at hf; omega)
    rw [List.append_assoc, readItems_error hv]
  | @Items.cons ws c ws' t' v vs' hws hc hws' ht =>
    simp only [heightItems] at hdeep
    rw [show ws ++ c ++ ws' ++ ',' :: t' ++ ']' :: rest = ws ++ c ++ (ws' ++ ',' :: (t' ++ ']' :: rest)) by simp]
    -- either this item is the one too deep, or one after it is
    rcases Nat.lt_or_ge maxDepth (d + height v) with hv | hv
    · refine readItems_error ?_
      rw [List.append_assoc, readValue_blanks hws]
      exact hc.read_tooDeep f d _ hd hv (by simp at hf; omega)
    · have hread : readValue f d (ws ++ c ++ (ws' ++ ',' :: (t' ++ ']' :: rest))) =
          .ok (v, ws' ++ ',' :: (t' ++ ']' :: rest)) := by
        rw [List.append_assoc, readValue_blanks hws]
        exact hc.read f d _ (follows_blanks_close hws' (by simp) _) hv (by simp at hf; omega)
      rw [readItems_next hread (by rw [skipBlanks_append hws']; rfl)]
      exact ht.read_tooDeep f d (v :: acc) rest hd (by omega) (by simp at hf; omega)

theorem Members.read_tooDeep {t : List Char} {ms : List (String × Json)} (h : Members t ms) (fuel d : Nat)
    (acc : List (String × Json)) (rest : List Char) (hd : d ≤ maxDepth)
    (hdeep : maxDepth < d + heightMembers ms) (hf : 2 * t.length + 1 ≤ fuel) :
    readMembers fuel d acc (t ++ '}' :: rest) = .error .tooDeep := by
  obtain ⟨f, rfl⟩ : ∃ f, fuel = f + 1 := ⟨fuel - 1, by omega⟩
  match h with
  | @Members.last ws₁ kc ws₂ ws₃ c ws₄ k v hws₁ hk hws₂ hws₃ hc hws₄ =>
    simp only [heightMembers] at hdeep
    obtain ⟨b, s, rfl, hb, rfl⟩ := hk.str_inv
    have hv : readValue f d (ws₃ ++ c ++ (ws₄ ++ '}' :: rest)) = .error .tooDeep := by
      rw [List.append_assoc, readValue_blanks hws₃]
      exact hc.read_tooDeep f d _ hd (by omega) (by simp at hf; omega)
    rw [show ws₁ ++ ('"' :: b ++ ['"']) ++ ws₂ ++ ':' :: ws₃ ++ c ++ ws₄ ++ '}' :: rest =
      ws₁ ++ '"' :: b ++ '"' :: ws₂ ++ ':' :: (ws₃ ++ c ++ (ws₄ ++ '}' :: rest)) by simp,
      readMembers_error hws₁ hb hws₂ hv]
  | @Members.cons ws₁ kc ws₂ ws₃ c ws₄ t' k v ms' hws₁ hk hws₂ hws₃ hc hws₄ ht =>
    simp only [heightMembers] at hdeep
    obtain ⟨b, s, rfl, hb, rfl⟩ := hk.str_inv
    rw [show ws₁ ++ ('"' :: b ++ ['"']) ++ ws₂ ++ ':' :: ws₃ ++ c ++ ws₄ ++ ',' :: t' ++ '}' :: rest =
      ws₁ ++ '"' :: b ++ '"' :: ws₂ ++ ':' :: (ws₃ ++ c ++ (ws₄ ++ ',' :: (t' ++ '}' :: rest))) by simp]
    -- either this value is the one too deep, or one after it is
    rcases Nat.lt_or_ge maxDepth (d + height v) with hv | hv
    · refine readMembers_error hws₁ hb hws₂ ?_
      rw [List.append_assoc, readValue_blanks hws₃]
      exact hc.read_tooDeep f d _ hd hv (by simp at hf; omega)
    · have hread : readValue f d (ws₃ ++ c ++ (ws₄ ++ ',' :: (t' ++ '}' :: rest))) =
          .ok (v, ws₄ ++ ',' :: (t' ++ '}' :: rest)) := by
        rw [List.append_assoc, readValue_blanks hws₃]
        exact hc.read f d _ (follows_blanks_close hws₄ (by simp) _) hv (by simp at hf; omega)
      rw [readMembers_next hws₁ hb hws₂ hread (by rw [skipBlanks_append hws₄]; rfl)]
      exact ht.read_tooDeep f d _ rest hd (by omega) (by simp at hf; omega)

end

/-! ### Whole texts -/

/-- A value's text with blanks around it parses as that value. -/
theorem parse_text {ws c ws' : List Char} {v : Json} (hws : Blanks ws) (hc : Text c v) (hws' : Blanks ws')
    (hh : height v ≤ maxDepth) : parse (String.ofList (ws ++ c ++ ws')) = .ok v := by
  have hread : readValue (4 * (ws ++ c ++ ws').length + 4) 0 (ws ++ c ++ ws') = .ok (v, ws') := by
    rw [List.append_assoc, readValue_blanks hws]
    exact hc.read _ 0 ws' (by simpa using follows_blanks_append hws' follows_nil) (by omega) (by simp; omega)
  have hend : skipBlanks ws' = [] := by rw [← List.append_nil ws', skipBlanks_append hws']; rfl
  simp only [parse, String.toList_ofList, bind, Except.bind]
  rw [hread]
  simp [hend, pure, Except.pure]

/-- A text that starts with a value nested too deep does not parse. -/
theorem parse_tooDeep {ws c : List Char} {v : Json} (hws : Blanks ws) (hc : Text c v) (rest : List Char)
    (hh : maxDepth < height v) : parse (String.ofList (ws ++ c ++ rest)) = .error .tooDeep := by
  have hread : readValue (4 * (ws ++ c ++ rest).length + 4) 0 (ws ++ c ++ rest) = .error .tooDeep := by
    rw [List.append_assoc, readValue_blanks hws]
    exact hc.read_tooDeep _ 0 rest (by simp [maxDepth]) (by omega) (by simp; omega)
  simp only [parse, String.toList_ofList, bind, Except.bind]
  rw [hread]

/-- Whatever parses is the text of the value it parses as, with blanks around it. -/
theorem parse_sound {s : String} {v : Json} (h : parse s = .ok v) :
    ∃ ws c ws', s.toList = ws ++ c ++ ws' ∧ Blanks ws ∧ Text c v ∧ Blanks ws' ∧ height v ≤ maxDepth := by
  simp only [parse, bind, Except.bind] at h
  split at h
  · cases h
  next p hr =>
  obtain ⟨w, rest⟩ := p
  obtain ⟨ws, c, hcs, hws, hc, hh⟩ := readValue_sound (Nat.zero_le _) hr
  obtain ⟨ws', hws', hrest, -⟩ := skipBlanks_spec rest
  split at h
  · next hsk =>
    simp only [pure, Except.pure, Except.ok.injEq] at h
    subst h
    rw [hsk, List.append_nil] at hrest
    exact ⟨ws, c, ws', by rw [hcs, hrest], hws, hc, hws', by omega⟩
  · cases h

/-- The first value of a stream is read from its text, up to what cannot continue it. -/
theorem parseFirst_text {ws c rest : List Char} {v : Json} (hws : Blanks ws) (hc : Text c v)
    (hr : Follows rest) (hh : height v ≤ maxDepth) :
    parseFirst (String.ofList (ws ++ c ++ rest)) = .ok (v, rest) := by
  obtain ⟨x, r, hs, hx⟩ := hc.skipBlanks hws rest
  simp only [parseFirst, String.toList_ofList, hs]
  rw [List.append_assoc, readValue_blanks hws]
  exact hc.read _ 0 rest hr (by omega) (by simp; omega)

/-- A stream whose first value nests too deep is refused with `tooDeep`. -/
theorem parseFirst_tooDeep {ws c : List Char} {v : Json} (hws : Blanks ws) (hc : Text c v) (rest : List Char)
    (hh : maxDepth < height v) : parseFirst (String.ofList (ws ++ c ++ rest)) = .error .tooDeep := by
  obtain ⟨x, r, hs, hx⟩ := hc.skipBlanks hws rest
  simp only [parseFirst, String.toList_ofList, hs]
  rw [List.append_assoc, readValue_blanks hws]
  exact hc.read_tooDeep _ 0 rest (by simp [maxDepth]) (by omega) (by simp; omega)

end NetFleet.Json
