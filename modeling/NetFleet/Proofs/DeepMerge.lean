import Mathlib
import NetFleet.Json.Dynamic

/-!
# Dictionaries and the deep merge

Dynamic JSON holds every object as a dictionary: its members sorted by name,
each name once (`Json.Ordered`). On such an object `Json.put` sets one member
and leaves the others as they were (`lookup?_put`), and two such objects with
the same member under every name are the same list (`SortedNames.ext`).

`Json.mergeDeep base patch` merges key by key (`lookup?_mergeDeep`): a name that
`patch` lacks keeps its value in `base`; where both hold an object the two merge
in turn (`mergeValue`); otherwise the value of `patch` replaces the old one, so
lists and `null` replace. Merging keeps objects ordered (`Ordered.mergeDeep`),
and merging the same patch a second time changes nothing
(`mergeDeep_mergeDeep_self`).
-/

namespace NetFleet.Json

/-! ### Sorted members -/

/-- Members sorted by name, each name once. -/
def SortedNames (ms : List (String × Json)) : Prop := ms.Pairwise fun a b => a.1 < b.1

/-- Every object of a value, at every depth, has its members sorted by name,
each name once: the form in which dynamic JSON holds objects. -/
inductive Ordered : Json → Prop
  | null : Ordered .null
  | bool (b : Bool) : Ordered (.bool b)
  | num (lit : String) : Ordered (.num lit)
  | str (s : String) : Ordered (.str s)
  | arr {xs : List Json} : (∀ x ∈ xs, Ordered x) → Ordered (.arr xs)
  | obj {ms : List (String × Json)} : SortedNames ms → (∀ kv ∈ ms, Ordered kv.2) → Ordered (.obj ms)

variable {ms base patch : List (String × Json)} {k k' : String} {v v' : Json}

theorem Ordered.sortedNames (h : Ordered (.obj ms)) : SortedNames ms := by
  cases h with
  | obj hs _ => exact hs

theorem Ordered.of_mem (h : Ordered (.obj ms)) {kv : String × Json} (hkv : kv ∈ ms) : Ordered kv.2 := by
  cases h with
  | obj _ hv => exact hv kv hkv

@[simp] theorem sortedNames_nil : SortedNames [] := List.Pairwise.nil

theorem ordered_nil : Ordered (.obj []) := .obj sortedNames_nil (by simp)

/-! ### Looking a name up -/

theorem foldl_lookup (ms : List (String × Json)) (k : String) (init : Option Json) :
    ms.foldl (fun acc kv => if kv.1 = k then some kv.2 else acc) init =
      (ms.foldl (fun acc kv => if kv.1 = k then some kv.2 else acc) none).or init := by
  induction ms generalizing init with
  | nil => simp
  | cons kv ms ih =>
    rw [List.foldl_cons, List.foldl_cons, ih (if kv.1 = k then some kv.2 else init),
      ih (if kv.1 = k then some kv.2 else none)]
    by_cases h : kv.1 = k <;> simp [h]

/-- The last member of a name decides its lookup. -/
theorem lookup?_cons (kv : String × Json) (ms : List (String × Json)) (k : String) :
    lookup? (kv :: ms) k = (lookup? ms k).or (if kv.1 = k then some kv.2 else none) := by
  simp only [lookup?, List.foldl_cons]
  exact foldl_lookup ms k _

@[simp] theorem lookup?_nil (k : String) : lookup? [] k = none := rfl

theorem lookup?_eq_none : lookup? ms k = none ↔ ∀ kv ∈ ms, kv.1 ≠ k := by
  induction ms with
  | nil => simp
  | cons kv ms ih =>
    rw [lookup?_cons]
    by_cases h : kv.1 = k <;> simp [h, ih]

theorem mem_of_lookup? (h : lookup? ms k = some v) : (k, v) ∈ ms := by
  induction ms with
  | nil => cases h
  | cons kv ms ih =>
    rw [lookup?_cons] at h
    rcases hk : lookup? ms k with _ | w
    · rw [hk] at h
      by_cases hkv : kv.1 = k
      · simp only [hkv, if_true, Option.none_or, Option.some.injEq] at h
        subst hkv h
        exact List.mem_cons_self
      · simp [hkv] at h
    · rw [hk] at h
      cases h
      exact List.mem_cons_of_mem _ (ih hk)

/-- In sorted members no later member has the first name. -/
theorem SortedNames.lookup?_tail (h : SortedNames ((k', v') :: ms)) : lookup? ms k' = none :=
  lookup?_eq_none.2 fun _ hkv => (List.rel_of_pairwise_cons h hkv).ne'

/-- In sorted members the first member of a name is the only one. -/
theorem SortedNames.lookup?_cons (h : SortedNames ((k', v') :: ms)) (k : String) :
    lookup? ((k', v') :: ms) k = if k' = k then some v' else lookup? ms k := by
  rw [Json.lookup?_cons]
  by_cases hk : k' = k
  · subst hk
    simp [h.lookup?_tail]
  · simp [hk]

/-- A name before the first of sorted members is none of them. -/
theorem SortedNames.lookup?_of_lt (h : SortedNames ((k', v') :: ms)) (hk : k < k') :
    lookup? ((k', v') :: ms) k = none :=
  lookup?_eq_none.2 fun kv hkv => by
    rcases List.mem_cons.1 hkv with rfl | hkv
    · exact hk.ne'
    · exact (lt_trans hk (List.rel_of_pairwise_cons h hkv)).ne'

/-- Sorted members with the same member under every name are the same. -/
theorem SortedNames.ext : ∀ {a b : List (String × Json)}, SortedNames a → SortedNames b →
    (∀ k, lookup? a k = lookup? b k) → a = b
  | [], [], _, _, _ => rfl
  | [], (k, v) :: b, _, hb, h => by
    have := h k
    rw [hb.lookup?_cons, if_pos rfl] at this
    cases this
  | (k, v) :: a, [], ha, _, h => by
    have := h k
    rw [ha.lookup?_cons, if_pos rfl] at this
    cases this
  | (k, v) :: a, (k', v') :: b, ha, hb, h => by
    -- the first names agree: the smaller one would be missing from the other list
    have hk : k = k' := by
      rcases lt_trichotomy k k' with hlt | heq | hgt
      · have hl := h k
        rw [ha.lookup?_cons, if_pos rfl, hb.lookup?_of_lt hlt] at hl
        cases hl
      · exact heq
      · have hl := h k'
        rw [hb.lookup?_cons, if_pos rfl, ha.lookup?_of_lt hgt] at hl
        cases hl
    subst hk
    have hv : v = v' := by
      have hl := h k
      rw [ha.lookup?_cons, hb.lookup?_cons, if_pos rfl, if_pos rfl] at hl
      exact Option.some.inj hl
    subst hv
    refine congrArg _ (SortedNames.ext ha.of_cons hb.of_cons fun j => ?_)
    by_cases hj : k = j
    · -- no later member has the first name
      subst hj
      rw [ha.lookup?_tail, hb.lookup?_tail]
    · have hl := h j
      rwa [ha.lookup?_cons, hb.lookup?_cons, if_neg hj, if_neg hj] at hl

/-! ### Setting a member -/

theorem mem_put {m : String × Json} (h : m ∈ put k v ms) : m = (k, v) ∨ m ∈ ms := by
  induction ms with
  | nil => simpa [put] using h
  | cons p ms ih =>
    obtain ⟨k₀, v₀⟩ := p
    simp only [put] at h
    split_ifs at h
    · rcases List.mem_cons.1 h with h | h
      · exact .inl h
      · exact .inr (List.mem_cons_of_mem _ h)
    · simpa using h
    · rcases List.mem_cons.1 h with h | h
      · exact .inr (h ▸ List.mem_cons_self)
      · rcases ih h with h | h
        · exact .inl h
        · exact .inr (List.mem_cons_of_mem _ h)

theorem SortedNames.put (hs : SortedNames ms) : SortedNames (Json.put k v ms) := by
  induction ms with
  | nil => simp [Json.put, SortedNames]
  | cons p ms ih =>
    obtain ⟨k₀, v₀⟩ := p
    simp only [SortedNames, List.pairwise_cons] at hs
    simp only [Json.put]
    split_ifs with h₁ h₂
    · -- the member of that name is replaced in place
      subst h₁
      exact List.pairwise_cons.2 ⟨hs.1, hs.2⟩
    · -- the member goes before the first one named after it
      refine List.pairwise_cons.2 ⟨fun m hm => ?_, List.pairwise_cons.2 hs⟩
      rcases List.mem_cons.1 hm with rfl | hm
      · exact h₂
      · exact lt_trans h₂ (hs.1 m hm)
    · have hlt : k₀ < k := lt_of_le_of_ne (not_lt.1 h₂) h₁
      refine List.pairwise_cons.2 ⟨fun m hm => ?_, ih hs.2⟩
      rcases mem_put hm with rfl | hm
      · exact hlt
      · exact hs.1 m hm

/-- Setting a member changes the member of that name and no other. -/
theorem lookup?_put (hs : SortedNames ms) (j : String) :
    lookup? (put k v ms) j = if k = j then some v else lookup? ms j := by
  induction ms with
  | nil => by_cases h : k = j <;> simp [put, lookup?_cons, h]
  | cons p ms ih =>
    obtain ⟨k₀, v₀⟩ := p
    have hput : SortedNames (put k v ((k₀, v₀) :: ms)) := hs.put
    rw [hs.lookup?_cons]
    by_cases h₁ : k₀ = k
    · -- the member of that name is replaced
      subst h₁
      simp only [put, if_true] at hput ⊢
      rw [hput.lookup?_cons]
      by_cases hj : k₀ = j <;> simp [hj]
    by_cases h₂ : k < k₀
    · -- the member goes first
      simp only [put, h₁, h₂, if_true, if_false] at hput ⊢
      rw [hput.lookup?_cons, hs.lookup?_cons]
    · simp only [put, h₁, h₂, if_false] at hput ⊢
      rw [hput.lookup?_cons, ih hs.of_cons]
      by_cases hj : k₀ = j
      · subst hj
        simp [Ne.symm h₁]
      · simp [hj]

/-- Setting a member twice keeps the second value. -/
theorem put_put (k : String) (v w : Json) (ms : List (String × Json)) :
    put k v (put k w ms) = put k v ms := by
  induction ms with
  | nil => simp [put]
  | cons p ms ih =>
    obtain ⟨k₀, v₀⟩ := p
    by_cases h₁ : k₀ = k
    · simp [put, h₁]
    by_cases h₂ : k < k₀
    · simp [put, h₁, h₂]
    · simp [put, h₁, h₂, ih]

theorem Ordered.put (hs : Ordered (.obj ms)) (hv : Ordered v) : Ordered (.obj (Json.put k v ms)) :=
  .obj hs.sortedNames.put fun kv hkv => by
    rcases mem_put hkv with rfl | hkv
    · exact hv
    · exact hs.of_mem hkv

/-! ### The merge, key by key -/

/-- The value of a member after `v` is merged into the value `old` it had: two
objects merge, anything else is replaced by `v`. -/
def mergeValue (old : Option Json) : Json → Json
  | .obj o => match old with
    | some (.obj b) => .obj (mergeDeep b o)
    | _ => .obj o
  | v => v

/-- Unless two objects meet, the new value replaces the old. -/
theorem mergeValue_eq_self {x : Option Json} (h : ∀ b o, x = some (.obj b) → v = .obj o → False) :
    mergeValue x v = v := by
  cases v with
  | obj o =>
    rcases x with _ | ⟨_ | _ | _ | _ | _ | b⟩
    · rfl
    all_goals first | rfl | exact (h b o rfl rfl).elim
  | _ => rfl

@[simp] theorem mergeValue_none (v : Json) : mergeValue none v = v :=
  mergeValue_eq_self fun _ _ h => by cases h

theorem mergeDeep_cons (base : List (String × Json)) (k : String) (v : Json) (rest : List (String × Json)) :
    mergeDeep base ((k, v) :: rest) = mergeDeep (put k (mergeValue (lookup? base k) v) base) rest := by
  by_cases hob : ∃ b o, lookup? base k = some (.obj b) ∧ v = .obj o
  · -- two objects meet and merge
    obtain ⟨b, o, hb, rfl⟩ := hob
    rw [Json.mergeDeep.eq_2 _ _ _ _ _ hb, hb]
    rfl
  · have hno : ∀ b o, lookup? base k = some (.obj b) → v = .obj o → False :=
      fun b o hb hv => hob ⟨b, o, hb, hv⟩
    rw [Json.mergeDeep.eq_3 _ _ _ _ hno, mergeValue_eq_self hno]

theorem SortedNames.mergeDeep (hs : SortedNames base) (patch : List (String × Json)) :
    SortedNames (Json.mergeDeep base patch) := by
  induction patch generalizing base with
  | nil => rwa [Json.mergeDeep.eq_1]
  | cons kv rest ih =>
    obtain ⟨k, v⟩ := kv
    rw [Json.mergeDeep_cons]
    exact ih hs.put

/-- A merge key by key: a name the patch lacks keeps its old value, and a name
it holds gets its value merged into the old one. -/
theorem lookup?_mergeDeep (hb : SortedNames base) (hp : SortedNames patch) (k : String) :
    lookup? (mergeDeep base patch) k =
      ((lookup? patch k).map (mergeValue (lookup? base k))).or (lookup? base k) := by
  induction patch generalizing base with
  | nil => simp [mergeDeep.eq_1]
  | cons kv rest ih =>
    obtain ⟨k', v'⟩ := kv
    rw [mergeDeep_cons, ih hb.put hp.of_cons, lookup?_put hb, hp.lookup?_cons]
    by_cases hk : k' = k
    · -- the patch names `k` once, in its first member
      subst hk
      rw [hp.lookup?_tail]
      simp
    · simp [hk]

/-! ### Merging keeps dictionaries, and a second merge changes nothing -/

theorem Ordered.of_cons {kv : String × Json} (h : Ordered (.obj (kv :: ms))) : Ordered (.obj ms) :=
  .obj h.sortedNames.of_cons fun _ hm => h.of_mem (List.mem_cons_of_mem _ hm)

theorem sizeOf_lt_of_lookup? {o : List (String × Json)} (h : lookup? ms k = some (.obj o)) :
    sizeOf o < sizeOf ms := by
  have := List.sizeOf_lt_of_mem (mem_of_lookup? h)
  simp only [Prod.mk.sizeOf_spec, Json.obj.sizeOf_spec] at this
  omega

/-- The merge follows the recursion of `mergeDeep`: one member of the patch,
then the rest, and two objects that meet merge in turn. -/
theorem Ordered.mergeDeep : ∀ {base patch : List (String × Json)}, Ordered (.obj base) → Ordered (.obj patch) →
    Ordered (.obj (Json.mergeDeep base patch))
  | base, [], hb, _ => by rwa [Json.mergeDeep.eq_1]
  | base, (k, v) :: rest, hb, hp => by
    rw [Json.mergeDeep_cons]
    have hv : Ordered v := hp.of_mem List.mem_cons_self
    have hm : Ordered (mergeValue (lookup? base k) v) := by
      by_cases hob : ∃ b o, lookup? base k = some (.obj b) ∧ v = .obj o
      · obtain ⟨b, o, hbk, hvo⟩ := hob
        rw [hbk, hvo]
        exact Ordered.mergeDeep (hb.of_mem (mem_of_lookup? hbk)) (hvo ▸ hv)
      · rw [mergeValue_eq_self fun b o h₁ h₂ => hob ⟨b, o, h₁, h₂⟩]
        exact hv
    exact Ordered.mergeDeep (hb.put hm) hp.of_cons
termination_by _ patch => sizeOf patch
decreasing_by
  all_goals simp_all only [List.cons.sizeOf_spec, Prod.mk.sizeOf_spec, Json.obj.sizeOf_spec]
  all_goals omega

/-- Merging into nothing gives the patch itself. -/
theorem mergeDeep_nil_left (hs : SortedNames patch) : mergeDeep [] patch = patch := by
  refine SortedNames.ext (sortedNames_nil.mergeDeep _) hs fun k => ?_
  rw [lookup?_mergeDeep sortedNames_nil hs]
  cases lookup? patch k <;> simp

/-- Merging a patch a second time changes nothing. -/
theorem mergeDeep_mergeDeep_self : ∀ {base patch : List (String × Json)}, Ordered (.obj base) →
    Ordered (.obj patch) → mergeDeep (mergeDeep base patch) patch = mergeDeep base patch
  | base, patch, hb, hp => by
    have hm := hb.mergeDeep hp
    refine SortedNames.ext (hm.sortedNames.mergeDeep _) hm.sortedNames fun k => ?_
    rw [lookup?_mergeDeep hm.sortedNames hp.sortedNames, lookup?_mergeDeep hb.sortedNames hp.sortedNames]
    rcases hk : lookup? patch k with _ | v
    · simp
    simp only [Option.map_some, Option.some_or, Option.some.injEq]
    -- only an object of the patch merges again, into what the first merge left
    cases v with
    | obj o =>
      have ho : Ordered (.obj o) := hp.of_mem (mem_of_lookup? hk)
      have hself : mergeDeep o o = o := by
        have h := mergeDeep_mergeDeep_self ordered_nil ho
        rwa [mergeDeep_nil_left ho.sortedNames] at h
      by_cases hob : ∃ b, lookup? base k = some (.obj b)
      · obtain ⟨b, hbk⟩ := hob
        have hb' : Ordered (.obj b) := hb.of_mem (mem_of_lookup? hbk)
        simp [hbk, mergeValue, mergeDeep_mergeDeep_self hb' ho]
      · rw [mergeValue_eq_self fun b _ h _ => hob ⟨b, h⟩]
        simp [mergeValue, hself]
    | _ => rfl
termination_by _ patch => sizeOf patch
decreasing_by all_goals exact sizeOf_lt_of_lookup? hk

/-! ### Dynamic values are dictionaries -/

theorem bind_ok {α β : Type} {x : Except String α} {f : α → Except String β} {b : β}
    (h : x >>= f = .ok b) : ∃ a, x = .ok a ∧ f a = .ok b := by
  cases x with
  | error e => cases h
  | ok a => exact ⟨a, rfl, h⟩

mutual

/-- A value made dynamic holds every object as a dictionary. -/
theorem Ordered.of_dynamic? : ∀ {j d : Json}, dynamic? j = .ok d → Ordered d
  | .null, _, h => by cases h; exact .null
  | .bool b, _, h => by cases h; exact .bool b
  | .str s, _, h => by cases h; exact .str s
  | .num lit, d, h => by
    simp only [dynamic?] at h
    split at h
    · cases h; exact .num _
    · cases h
  | .arr xs, d, h => by
    obtain ⟨ys, hys, hd⟩ := bind_ok h
    cases hd
    exact .arr (Ordered.of_dynamicItems hys)
  | .obj ms, d, h => by
    obtain ⟨r, hr, hd⟩ := bind_ok h
    cases hd
    exact Ordered.of_dynamicMembers ordered_nil hr

theorem Ordered.of_dynamicItems : ∀ {xs ys : List Json}, dynamicItems xs = .ok ys → ∀ y ∈ ys, Ordered y
  | [], _, h => by cases h; simp
  | x :: xs, ys, h => by
    obtain ⟨y, hy, h⟩ := bind_ok h
    obtain ⟨ys', hys', h⟩ := bind_ok h
    cases h
    intro z hz
    rcases List.mem_cons.1 hz with rfl | hz
    · exact Ordered.of_dynamic? hy
    · exact Ordered.of_dynamicItems hys' z hz

/-- Members made dynamic are put one by one into a dictionary. -/
theorem Ordered.of_dynamicMembers : ∀ {acc ms r : List (String × Json)}, Ordered (.obj acc) →
    dynamicMembers acc ms = .ok r → Ordered (.obj r)
  | _, [], _, ha, h => by cases h; exact ha
  | _, (k, v) :: ms, _, ha, h => by
    obtain ⟨w, hw, h⟩ := bind_ok h
    exact Ordered.of_dynamicMembers (ha.put (Ordered.of_dynamic? hw)) h

end

end NetFleet.Json
