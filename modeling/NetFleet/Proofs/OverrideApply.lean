import Mathlib
import NetFleet.Column.Override
import NetFleet.Proofs.DeepMerge

/-!
# Applying an override

An override walks its path through a dynamic column and merges its data into the
object it finds at the end (`Override.apply`). A value of the column is read by
the path that leads to it through objects (`Json.atPath`). For every column held
as a dictionary:

* the override is refused exactly when some prefix of its path reaches, through
  objects, a value that is present, not `null` and not an object; the fault is a
  validation fault naming that prefix (`apply_merges_at_path`), and there is at
  most one such prefix (`Blocked.unique`);
* otherwise the result differs from the column only along the path: every value
  off the path is as it was, every step of the path holds an object, and the
  object at the end is the data merged into the object that was there, or into
  the empty object where nothing or `null` was (`apply_merges_at_path`);
* applying the same override to the result gives the result again
  (`apply_idempotent`).

The walk is one step per name of the path (`applyAt_cons_of_passes`,
`applyAt_cons_of_blocked`), and each statement is proved by induction on the path.
-/

namespace NetFleet

namespace Json

/-- The value at `path` below `j`, reached through objects: `none` when a step
finds no member of its name, or a value that is not an object. -/
def atPath : Json → List String → Option Json
  | j, [] => some j
  | .obj ms, k :: p => (lookup? ms k).bind (atPath · p)
  | _, _ :: _ => none

@[simp] theorem atPath_nil (j : Json) : j.atPath [] = some j := by
  cases j <;> rfl

@[simp] theorem atPath_obj_cons (ms : List (String × Json)) (k : String) (p : List String) :
    (Json.obj ms).atPath (k :: p) = (lookup? ms k).bind (atPath · p) := rfl

theorem atPath_of_obj?_eq_none {j : Json} (h : j.obj? = none) {p : List String} (hp : p ≠ []) :
    j.atPath p = none := by
  obtain ⟨k, p, rfl⟩ := List.exists_cons_of_ne_nil hp
  cases j <;> first | rfl | cases h

/-- Reading along `p ++ q` reads along `p`, then along `q` from what it found. -/
theorem atPath_append (j : Json) (p q : List String) : j.atPath (p ++ q) = (j.atPath p).bind (atPath · q) := by
  induction p generalizing j with
  | nil => simp
  | cons k p ih =>
    cases j with
    | obj ms =>
      simp only [List.cons_append, atPath_obj_cons, Option.bind_assoc]
      congr 1
      funext v
      exact ih v
    | _ => rfl

/-- A value the walk passes: `null`, which it replaces by an empty object, or an object. -/
def Passable (v : Json) : Prop := v = .null ∨ ∃ ms, v = .obj ms

end Json

namespace Column.Override

open Json

/-! ### One step of the walk -/

/-- The object the walk enters under `k`: the member's object, or the empty object
when the member is missing or `null`. -/
def childOf (node : List (String × Json)) (k : String) : List (String × Json) :=
  ((lookup? node k).bind Json.obj?).getD []

/-- The walk stops at prefix `p` of its path in `node`: it reaches there, through
objects, a value it cannot pass. -/
def Blocked (node : List (String × Json)) (p : List String) : Prop :=
  ∃ v, (Json.obj node).atPath p = some v ∧ ¬ Passable v

/-- The object the data merges into at the end of `path`: the object there, or the
empty object where the path reaches nothing or `null`. -/
def target (node : List (String × Json)) (path : List String) : List (String × Json) :=
  (((Json.obj node).atPath path).bind Json.obj?).getD []

/-- The message of a walk refused at prefix `p`. -/
def refusal (p : List String) : Fault := .validation [".".intercalate p ++ ": not an object"]

variable {data node : List (String × Json)} {k : String} {rest : List String}

theorem applyAt_nil (data : List (String × Json)) (done : List String) (node : List (String × Json)) :
    applyAt data done [] node = .ok (mergeDeep node data) := by
  simp [applyAt]

/-- A step that meets a value it cannot pass refuses the override there. -/
theorem applyAt_cons_of_blocked {v : Json} (hk : lookup? node k = some v) (hv : ¬ Passable v)
    (done : List String) :
    applyAt data done (k :: rest) node = .error (refusal (done ++ [k])) := by
  have hnull : v ≠ .null := fun h => hv (.inl h)
  have hobj : ∀ ms, v ≠ .obj ms := fun ms h => hv (.inr ⟨ms, h⟩)
  cases v with
  | null => exact absurd rfl hnull
  | obj ms => exact absurd rfl (hobj ms)
  | _ => simp [applyAt, hk, refusal]

/-- A step that meets nothing, `null` or an object walks on into `childOf`, and
puts what the rest of the walk makes of it back under `k`. -/
theorem applyAt_cons_of_passes (hk : ∀ v, lookup? node k = some v → Passable v) (done : List String) :
    applyAt data done (k :: rest) node =
      (applyAt data (done ++ [k]) rest (childOf node k)).map fun child => put k (.obj child) node := by
  rcases hl : lookup? node k with _ | v
  · simp [applyAt, hl, childOf, bind, Except.bind, Except.map, pure, Except.pure]
  · rcases hk v hl with rfl | ⟨ms, rfl⟩
    · simp [applyAt, hl, childOf, bind, Except.bind, Except.map, pure, Except.pure, Json.obj?]
    · simp [applyAt, hl, childOf, bind, Except.bind, Except.map, pure, Except.pure, Json.obj?]

/-- A step of a walk that succeeds passes, and puts back under `k` what the rest of
the walk made of the object it entered. -/
theorem applyAt_cons_ok {done : List String} {m : List (String × Json)}
    (h : applyAt data done (k :: rest) node = .ok m) :
    (∀ v, lookup? node k = some v → Passable v) ∧
      ∃ c, applyAt data (done ++ [k]) rest (childOf node k) = .ok c ∧ m = put k (.obj c) node := by
  by_cases hk : ∀ v, lookup? node k = some v → Passable v
  · rw [applyAt_cons_of_passes hk] at h
    rcases hc : applyAt data (done ++ [k]) rest (childOf node k) with f | c
    · rw [hc] at h
      cases h
    · rw [hc] at h
      cases h
      exact ⟨hk, c, rfl, rfl⟩
  · push Not at hk
    obtain ⟨v, hl, hv⟩ := hk
    rw [applyAt_cons_of_blocked hl hv] at h
    cases h

/-! ### Paths through a passable step -/

section Passing

variable (hk : ∀ v, lookup? node k = some v → Passable v)
include hk

/-- Below a passable step the column reads as the object the walk enters. -/
theorem atPath_cons_childOf {p : List String} (hp : p ≠ []) :
    (Json.obj node).atPath (k :: p) = (Json.obj (childOf node k)).atPath p := by
  obtain ⟨j, p, rfl⟩ := List.exists_cons_of_ne_nil hp
  rcases hl : lookup? node k with _ | v
  · simp [hl, childOf]
  · rcases hk v hl with rfl | ⟨ms, rfl⟩
    · simp [hl, childOf, Json.obj?, atPath]
    · simp [hl, childOf, Json.obj?]

theorem blocked_cons_iff (p : List String) : Blocked node (k :: p) ↔ Blocked (childOf node k) p := by
  rcases List.eq_nil_or_concat' p with rfl | ⟨_, _, rfl⟩
  · -- the step itself passes, and the object it enters is no obstacle
    constructor
    · rintro ⟨v, hv, hb⟩
      exact absurd (hk v (by simpa using hv)) hb
    · rintro ⟨v, hv, hb⟩
      simp only [atPath_nil, Option.some.injEq] at hv
      exact absurd ⟨_, hv.symm⟩ (fun h => hb (.inr h))
  · unfold Blocked
    rw [atPath_cons_childOf hk (by simp)]

theorem target_cons (p : List String) : target node (k :: p) = target (childOf node k) p := by
  rcases List.eq_nil_or_concat' p with rfl | ⟨_, _, rfl⟩
  · rcases hl : lookup? node k with _ | v
    · simp [target, childOf, hl, Json.obj?]
    · rcases hk v hl with rfl | ⟨ms, rfl⟩ <;> simp [target, childOf, hl, Json.obj?]
  · unfold target
    rw [atPath_cons_childOf hk (by simp)]

theorem ordered_childOf (hn : Ordered (.obj node)) : Ordered (.obj (childOf node k)) := by
  rcases hl : lookup? node k with _ | v
  · simpa [childOf, hl] using ordered_nil
  · rcases hk v hl with rfl | ⟨ms, rfl⟩
    · simpa [childOf, hl, Json.obj?] using ordered_nil
    · simpa [childOf, hl, Json.obj?] using hn.of_mem (mem_of_lookup? hl)

end Passing

/-! ### The walk refused -/

theorem not_blocked_nil (node : List (String × Json)) : ¬ Blocked node [] := by
  rintro ⟨v, hv, hb⟩
  simp only [atPath_nil, Option.some.injEq] at hv
  exact hb (.inr ⟨_, hv.symm⟩)

/-- Past a value it cannot pass the walk reaches nothing: the step itself is the
only prefix through it where the walk stops. -/
theorem blocked_cons_iff_of_blocked {v : Json} (hl : lookup? node k = some v) (hv : ¬ Passable v)
    (p : List String) : Blocked node (k :: p) ↔ p = [] := by
  constructor
  · rintro ⟨w, hw, -⟩
    by_contra hp
    have hobj : v.obj? = none := by
      cases v with
      | obj ms => exact absurd (.inr ⟨ms, rfl⟩) hv
      | _ => rfl
    simp [hl, atPath_of_obj?_eq_none hobj hp] at hw
  · rintro rfl
    exact ⟨v, by simp [hl], hv⟩

/-- Past a value it cannot pass the walk reaches nothing, so of two prefixes of one
path where it stops, neither goes further than the other. -/
theorem Blocked.eq_of_prefix {p q : List String} (hp : Blocked node p) (hq : Blocked node q) (h : p <+: q) :
    p = q := by
  obtain ⟨r, rfl⟩ := h
  rcases r with _ | ⟨j, r⟩
  · simp
  obtain ⟨v, hv, hb⟩ := hp
  obtain ⟨w, hw, -⟩ := hq
  have hobj : v.obj? = none := by
    cases v with
    | obj ms => exact absurd (.inr ⟨ms, rfl⟩) hb
    | _ => rfl
  rw [atPath_append, hv, Option.bind_some, atPath_of_obj?_eq_none hobj (List.cons_ne_nil j r)] at hw
  cases hw

/-- The walk along a path stops at one prefix of it at most. -/
theorem Blocked.unique {path p q : List String} (hp : Blocked node p) (hq : Blocked node q)
    (hp' : p <+: path) (hq' : q <+: path) : p = q := by
  rcases List.prefix_or_prefix_of_prefix hp' hq' with h | h
  · exact hp.eq_of_prefix hq h
  · exact (hq.eq_of_prefix hp h).symm

theorem map_eq_error {α β : Type} {x : Except Fault α} {g : α → β} {f : Fault} :
    x.map g = .error f ↔ x = .error f := by
  cases x <;> simp [Except.map]

/-- A walk is refused exactly at a prefix of its path that it cannot pass, and the
fault names that prefix, after the steps already taken. -/
theorem applyAt_error_iff (data : List (String × Json)) :
    ∀ (path done : List String) (node : List (String × Json)) (f : Fault),
      applyAt data done path node = .error f ↔
        ∃ p, p <+: path ∧ Blocked node p ∧ f = refusal (done ++ p)
  | [], done, node, f => by
    simp only [applyAt_nil, reduceCtorEq, false_iff, not_exists, not_and, List.prefix_nil]
    rintro _ rfl hb
    exact absurd hb (not_blocked_nil node)
  | k :: rest, done, node, f => by
    by_cases hk : ∀ v, lookup? node k = some v → Passable v
    · -- the step passes: the walk is refused below it, or not at all
      rw [applyAt_cons_of_passes hk, map_eq_error, applyAt_error_iff data rest]
      constructor
      · rintro ⟨p, hp, hb, rfl⟩
        exact ⟨k :: p, List.cons_prefix_cons.2 ⟨rfl, hp⟩, (blocked_cons_iff hk p).2 hb, by simp⟩
      · rintro ⟨p, hp, hb, rfl⟩
        rcases List.prefix_cons_iff.1 hp with rfl | ⟨p', rfl, hp'⟩
        · exact absurd hb (not_blocked_nil node)
        · exact ⟨p', hp', (blocked_cons_iff hk p').1 hb, by simp⟩
    · -- the step meets a value it cannot pass: that is the one refusing prefix
      push Not at hk
      obtain ⟨v, hl, hv⟩ := hk
      rw [applyAt_cons_of_blocked hl hv]
      constructor
      · rintro ⟨⟩
        exact ⟨[k], List.cons_prefix_cons.2 ⟨rfl, List.nil_prefix⟩,
          (blocked_cons_iff_of_blocked hl hv []).2 rfl, rfl⟩
      · rintro ⟨p, hp, hb, rfl⟩
        rcases List.prefix_cons_iff.1 hp with rfl | ⟨p', rfl, -⟩
        · exact absurd hb (not_blocked_nil node)
        · rw [(blocked_cons_iff_of_blocked hl hv p').1 hb]

/-! ### The walk through -/

/-- What a walk along `path` through `node` leaves when it succeeds: every value off
the path is as it was, every step of the path holds an object, and at the end
stands the data merged into the object that was there. -/
structure Merged (data node : List (String × Json)) (path : List String) (m : List (String × Json)) :
    Prop where
  off : ∀ q, ¬ q <+: path → ¬ path <+: q → (Json.obj m).atPath q = (Json.obj node).atPath q
  along : ∀ q, q <+: path → ∃ ms, (Json.obj m).atPath q = some (.obj ms)
  at_end : (Json.obj m).atPath path = some (.obj (mergeDeep (target node path) data))

theorem merged_nil (data node : List (String × Json)) : Merged data node [] (mergeDeep node data) where
  off _ _ h := absurd List.nil_prefix h
  along q hq := by
    rw [List.prefix_nil.1 hq]
    exact ⟨_, atPath_nil _⟩
  at_end := by simp [target, Json.obj?]

theorem atPath_put_cons (hs : SortedNames node) (c : List (String × Json)) (j : String) (q : List String) :
    (Json.obj (put k (.obj c) node)).atPath (j :: q) =
      if k = j then (Json.obj c).atPath q else (Json.obj node).atPath (j :: q) := by
  simp only [atPath_obj_cons, lookup?_put hs]
  split <;> simp

/-- One passable step keeps what the rest of the walk leaves, one level up. -/
theorem Merged.cons (hs : SortedNames node) (hk : ∀ v, lookup? node k = some v → Passable v)
    {c : List (String × Json)} (h : Merged data (childOf node k) rest c) :
    Merged data node (k :: rest) (put k (.obj c) node) where
  off q hq hq' := by
    rcases q with _ | ⟨j, q⟩
    · exact absurd List.nil_prefix hq
    rw [atPath_put_cons hs]
    split
    · next hj =>
      subst hj
      simp only [List.cons_prefix_cons, true_and] at hq hq'
      have hne : q ≠ [] := fun h => hq (h ▸ List.nil_prefix)
      rw [h.off q hq hq', atPath_cons_childOf hk hne]
    · rfl
  along q hq := by
    rcases List.prefix_cons_iff.1 hq with rfl | ⟨q', rfl, hq'⟩
    · exact ⟨_, atPath_nil _⟩
    · rw [atPath_put_cons hs, if_pos rfl]
      exact h.along q' hq'
  at_end := by
    rw [atPath_put_cons hs, if_pos rfl, target_cons hk]
    exact h.at_end

/-- A walk that succeeds leaves its data merged at the end of its path and the
column unchanged elsewhere. -/
theorem applyAt_merged (data : List (String × Json)) :
    ∀ (path done : List String) (node m : List (String × Json)), Ordered (.obj node) →
      applyAt data done path node = .ok m → Merged data node path m
  | [], done, node, m, _, h => by
    rw [applyAt_nil] at h
    cases h
    exact merged_nil data node
  | k :: rest, done, node, m, hs, h => by
    obtain ⟨hk, c, hc, rfl⟩ := applyAt_cons_ok h
    exact (applyAt_merged data rest _ _ c (ordered_childOf hk hs) hc).cons hs.sortedNames hk

/-- A walk that succeeds, walked again through what it left, leaves it as it is:
the path now holds objects all the way, and the data is already merged at the end. -/
theorem applyAt_self (data : List (String × Json)) (hd : Ordered (.obj data)) :
    ∀ (path done : List String) (node m : List (String × Json)), Ordered (.obj node) →
      applyAt data done path node = .ok m → applyAt data done path m = .ok m
  | [], done, node, m, hn, h => by
    rw [applyAt_nil] at h
    cases h
    rw [applyAt_nil, mergeDeep_mergeDeep_self hn hd]
  | k :: rest, done, node, m, hn, h => by
    obtain ⟨hk, c, hc, rfl⟩ := applyAt_cons_ok h
    -- the step now finds the object the first walk put there
    have hl : lookup? (put k (.obj c) node) k = some (.obj c) := by
      rw [lookup?_put hn.sortedNames, if_pos rfl]
    have hk' : ∀ v, lookup? (put k (.obj c) node) k = some v → Passable v := by
      intro v hv
      rw [hl] at hv
      exact .inr ⟨c, (Option.some.inj hv).symm⟩
    have hchild : childOf (put k (.obj c) node) k = c := by simp [childOf, hl, Json.obj?]
    rw [applyAt_cons_of_passes hk', hchild, applyAt_self data hd rest _ _ c (ordered_childOf hk hn) hc]
    simp [Except.map, put_put]

/-! ### Overrides -/

theorem ordered_singleton (k : String) {v : Json} (hv : Ordered v) : Ordered (.obj [(k, v)]) :=
  .obj (List.pairwise_singleton _ _) (by simpa using hv)

/-- An override applied to a column held as a dictionary (`none` for no column) is
refused exactly at the one prefix of its path that reaches, through objects, a
value that is present, not `null` and not an object, with a validation fault
naming that prefix. Otherwise every value off the path is as it was, every step of
the path holds an object, and at the end stands the data merged, key by key,
into the object that was there, or into the empty object where nothing or `null`
was. -/
theorem apply_merges_at_path (o : Override) (c : Option (List (String × Json)))
    (hc : Ordered (.obj (c.getD []))) :
    (∀ f, o.apply c = .error f ↔ ∃ p, p <+: o.path ∧ Blocked (c.getD []) p ∧ f = refusal p) ∧
      ∀ m, o.apply c = .ok m → Merged (o.data.getD []) (c.getD []) o.path m := by
  refine ⟨fun f => ?_, fun m h => applyAt_merged _ o.path [] _ m hc h⟩
  simpa [apply] using applyAt_error_iff (o.data.getD []) o.path [] (c.getD []) f

/-- An override of the element `eth0` of set `SIN1`, on a column that has it. -/
theorem element_override_merges :
    let o : Override := { setId := "SIN1", elementId := "eth0", data := some [("disabled", .bool true)] }
    let c : List (String × Json) := [("SIN1", .obj [("eth0", .obj [("type", .str "ethernet")])])]
    Ordered (.obj c) ∧
      (∀ f, o.apply (some c) = .error f ↔ ∃ p, p <+: o.path ∧ Blocked c p ∧ f = refusal p) ∧
      ∀ m, o.apply (some c) = .ok m → Merged (o.data.getD []) c o.path m :=
  by
  intro o c
  have hc : Ordered (.obj c) :=
    ordered_singleton "SIN1" (ordered_singleton "eth0" (ordered_singleton "type" (.str "ethernet")))
  exact ⟨hc, apply_merges_at_path o (some c) hc⟩

/-- Applying an override to what it made of a column gives that again, when the
column and the override's data are dictionaries. -/
theorem apply_idempotent (o : Override) (c : Option (List (String × Json)))
    (hc : Ordered (.obj (c.getD []))) (hd : Ordered (.obj (o.data.getD []))) {m : List (String × Json)}
    (h : o.apply c = .ok m) : o.apply (some m) = .ok m :=
  applyAt_self _ hd o.path [] _ m hc h

/-- The element override of `element_override_merges`, applied twice. -/
theorem element_override_idempotent :
    let o : Override := { setId := "SIN1", elementId := "eth0", data := some [("disabled", .bool true)] }
    let c : List (String × Json) := [("SIN1", .obj [("eth0", .obj [("type", .str "ethernet")])])]
    Ordered (.obj c) ∧ Ordered (.obj (o.data.getD [])) ∧
      ∀ m, o.apply (some c) = .ok m → o.apply (some m) = .ok m :=
  by
  intro o c
  have hc : Ordered (.obj c) :=
    ordered_singleton "SIN1" (ordered_singleton "eth0" (ordered_singleton "type" (.str "ethernet")))
  have hd : Ordered (.obj (o.data.getD [])) := ordered_singleton "disabled" (.bool true)
  exact ⟨hc, hd, fun _ h => apply_idempotent o (some c) hc hd h⟩

end Column.Override

end NetFleet
