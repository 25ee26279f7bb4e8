import Mathlib
import NetFleet.Proofs.Bench
import NetFleet.Control.Toggle

/-!
# Applying a change on the bench

Ethernet interfaces, tunnels, BGP peers and IS-IS interfaces are enabled and
disabled by one flow, `Station.apply`, once the inventory admitted the entry.
On the bench, whatever the overlay store and the router's shell hold, the flow
ends in one of three ways (`Ending`):

* it stops before the router is changed: no overlay or shell, a store that
  cannot be read, a mark that already agrees and no force, or a template that
  did not load. At most one command was run, and only when the overlay let the
  change through; the reply is not a success, and the store is as it was;
* the change is made, and being forced or a test it is not marked;
* the change is made and then marked (`Lists.mark`), once: written, refused
  (the reply becomes an error), or impossible because the document is `null`
  (the operation stops without an answer).

In every case the journal is untouched; recording is the caller's step.
-/

namespace NetFleet.Control

open NetFleet (Fault Reply)
open NetFleet.Schema (Node)
open Bench

/-! ### How an application ends -/

section Ending

variable (s : Station (StateM Bench)) (key entry : String) (disable : Bool) (opts : Options)

/-- The overlay lets a change of `entry` through on store `st`: it can be read,
and the entry's mark differs from the request unless the change is forced. -/
def Passes (st : Overlay.Store) : Prop :=
  s.overlay.isSome ∧ ∃ marked, s.lists.contains st key entry = .ok marked ∧
    (opts.force = true ∨ marked ≠ disable)

/-- What writing a mark left, by how the change `c` of store `st` went: the
answer `x` and the store `st'` afterwards. -/
def Written (c : Overlay.Change) (st : Overlay.Store) (x : Except Abort Reply) (st' : Overlay.Store) :
    Prop :=
  match c with
  | .applied _ st₁ => st' = st₁ ∧ ∃ r, x = .ok r ∧ r.result = true ∧ r.error = false
  | .refused _ _ => st' = st ∧ ∃ r, x = .ok r ∧ r.result = true ∧ r.error = true
  | .crashed => st' = st ∧ x = .error ⟨Overlay.crashMessage⟩

/-- How applying a change of `entry` under `key` from store `st` ended, with `n`
commands run on the router, the answer `x` and the store `st'` afterwards. -/
inductive Ending (st : Overlay.Store) : Nat → Except Abort Reply → Overlay.Store → Prop
  /-- refused, a fault, or a template that did not load: nothing is written -/
  | stopped {n : Nat} {r : Reply} : n ≤ 1 → (n = 1 → Passes s key entry disable opts st) →
      r.result = false → Ending st n (.ok r) st
  /-- made on the router and, being forced or a test, not marked -/
  | unmarked {r : Reply} : Passes s key entry disable opts st →
      (opts.force = true ∨ opts.test = true) → r.result = true → r.error = false →
      Ending st 1 (.ok r) st
  /-- made on the router, then marked -/
  | marked {x : Except Abort Reply} {st' : Overlay.Store} : Passes s key entry disable opts st →
      opts.force = false → opts.test = false →
      Written (s.lists.mark st key entry disable) st x st' → Ending st 1 x st'

/-- An application from journal `J` and bench `b` that answered `x` and left
`J'` and `b'`: the journal as it was, the shell's log extended by the commands
run, and one of the `Ending`s. -/
def Applied (J : List Audit.Event) (b : Bench) (x : Except Abort Reply) (J' : List Audit.Event)
    (b' : Bench) : Prop :=
  J' = J ∧ ∃ cmds, b'.shell.log = b.shell.log ++ cmds ∧
    Ending s key entry disable opts b.store cmds.length x b'.store

variable {s key entry disable opts}

/-- An answer with the same outcome and error flag ends the same way. -/
theorem Ending.reply {st st' : Overlay.Store} {n : Nat} {r r' : Reply}
    (h : Ending s key entry disable opts st n (.ok r) st') (hres : r'.result = r.result)
    (herr : r'.error = r.error) : Ending s key entry disable opts st n (.ok r') st' := by
  cases h with
  | stopped hn hp hr => exact .stopped hn hp (hres.trans hr)
  | unmarked hp hft hr he => exact .unmarked hp hft (hres.trans hr) (herr.trans he)
  | marked hp hf ht hw =>
    refine .marked hp hf ht ?_
    revert hw
    unfold Written
    split
    · rintro ⟨rfl, r₀, ⟨⟩, hr, he⟩
      exact ⟨rfl, r', rfl, hres.trans hr, herr.trans he⟩
    · rintro ⟨rfl, r₀, ⟨⟩, hr, he⟩
      exact ⟨rfl, r', rfl, hres.trans hr, herr.trans he⟩
    · rintro ⟨-, ⟨⟩⟩

theorem Applied.of_stop {J : List Audit.Event} {b : Bench} {r : Reply} (hr : r.result = false) :
    Applied s key entry disable opts J b (.ok r) J b :=
  ⟨rfl, [], by simp, .stopped (by simp) (by simp) hr⟩

/-- Reads that keep the store and the shell, in front of an application, change
nothing of how it ends. -/
theorem Applied.frame {J J' : List Audit.Event} {b b₁ b' : Bench} {x : Except Abort Reply}
    (h : Applied s key entry disable opts J b₁ x J' b') (hk : b₁.Keeps b.store b.shell) :
    Applied s key entry disable opts J b x J' b' := by
  obtain ⟨hst, hsh⟩ := hk
  rw [Applied, ← hst, ← hsh]
  exact h

/-- A reply given after an application, with its outcome and error flag, by
steps that keep the store and the shell, ends the same way. -/
theorem Applied.reply {J J' : List Audit.Event} {b b' b'' : Bench} {r r' : Reply}
    (h : Applied s key entry disable opts J b (.ok r) J' b') (hres : r'.result = r.result)
    (herr : r'.error = r.error) (hk : b''.Keeps b'.store b'.shell) :
    Applied s key entry disable opts J b (.ok r') J' b'' := by
  obtain ⟨rfl, cmds, hlog, he⟩ := h
  obtain ⟨hst, hsh⟩ := hk
  refine ⟨rfl, cmds, by rw [hsh, hlog], ?_⟩
  rw [hst]
  exact he.reply hres herr

end Ending

/-! ### What an ending implies -/

section Consequences

variable {s : Station (StateM Bench)} {key entry : String} {disable : Bool} {opts : Options}
  {st st' : Overlay.Store} {n : Nat} {x : Except Abort Reply}

/-- At most one command is run, and only for a change the overlay let through. -/
theorem Ending.sent (h : Ending s key entry disable opts st n x st') :
    n ≤ 1 ∧ (n ≠ 0 → Passes s key entry disable opts st) := by
  cases h with
  | stopped hn hp _ => exact ⟨hn, fun h0 => hp (by omega)⟩
  | unmarked hp _ _ _ => exact ⟨le_rfl, fun _ => hp⟩
  | marked hp _ _ _ => exact ⟨le_rfl, fun _ => hp⟩

/-- The store is kept, or it is the store of a written mark, after the one
command and without force or test, with a successful reply. -/
theorem Ending.store (h : Ending s key entry disable opts st n x st') :
    st' = st ∨ Passes s key entry disable opts st ∧ opts.force = false ∧ opts.test = false ∧ n = 1 ∧
      ∃ es r, s.lists.mark st key entry disable = .applied es st' ∧ x = .ok r ∧ r.result = true := by
  cases h with
  | stopped => exact .inl rfl
  | unmarked => exact .inl rfl
  | marked hp hf ht hw =>
    revert hw
    unfold Written
    split
    · rename_i es st₁ hm
      rintro ⟨rfl, r, rfl, hr, -⟩
      exact .inr ⟨hp, hf, ht, rfl, es, r, hm, rfl, hr⟩
    · rintro ⟨rfl, -⟩
      exact .inl rfl
    · rintro ⟨rfl, -⟩
      exact .inl rfl

/-- A successful reply whose mark was refused is an error. -/
theorem Ending.refused {r : Reply} {es : Option (List String)} {f : Fault}
    (h : Ending s key entry disable opts st n (.ok r) st') (hr : r.result = true)
    (hf : opts.force = false) (ht : opts.test = false)
    (hm : s.lists.mark st key entry disable = .refused es f) : r.error = true := by
  cases h with
  | stopped _ _ hr' => simp_all
  | unmarked _ hft _ _ => simp_all
  | marked _ _ _ hw =>
    rw [hm] at hw
    obtain ⟨-, r', hr', -, he⟩ := hw
    cases hr'
    exact he

/-- An application stops without an answer only when its mark cannot be stored. -/
theorem Ending.aborted {a : Abort} (h : Ending s key entry disable opts st n (.error a) st') :
    st' = st ∧ a.message = Overlay.crashMessage ∧ s.lists.mark st key entry disable = .crashed := by
  cases h with
  | marked _ _ _ hw =>
    revert hw
    unfold Written
    split
    · rintro ⟨-, r, ⟨⟩, -⟩
    · rintro ⟨-, r, ⟨⟩, -⟩
    · rename_i hm
      rintro ⟨rfl, ⟨⟩⟩
      exact ⟨rfl, rfl, hm⟩

end Consequences

/-! ### The flow of a change -/

section Apply

variable {ep : Http.Endpoint} {facts : Router.Facts} {user : String} {ov sh au : Bool}

theorem faultReply_result (f : Fault) : (faultReply f).result = false := by
  simp only [faultReply, Reply.ofFault]
  split
  · rfl
  · split
    · rfl
    · split_ifs <;> rfl

/-- The mark after a change was made, with a successful reply `r`: the store is
written once, by the change `Lists.mark` gives, and nothing else changes. -/
theorem markOverlay_written (t : Toggle) {r : Reply} (hr : r.result = true) (he : r.error = false)
    {J J' : List Audit.Event} {b b' : Bench} {x : Except Abort Reply}
    (h : exec ((station ep facts user ov sh au).markOverlay keeper t r) J b = ((x, J'), b')) :
    J' = J ∧ b'.shell = b.shell ∧
      Written ((station ep facts user ov sh au).lists.mark b.store t.key t.entry t.disable) b.store x
        b'.store := by
  simp only [Station.markOverlay, exec_bind, exec_read] at h
  rcases hm : (station ep facts user ov sh au).lists.mark b.store t.key t.entry t.disable with
    ⟨es, st'⟩ | ⟨es, f⟩ | _
  · simp only [hm, exec_bind, exec_write, exec_pure, Prod.mk.injEq] at h
    obtain ⟨⟨rfl, rfl⟩, rfl⟩ := h
    exact ⟨rfl, rfl, rfl, r, rfl, hr, he⟩
  · simp only [hm, exec_pure, Prod.mk.injEq] at h
    obtain ⟨⟨rfl, rfl⟩, rfl⟩ := h
    exact ⟨rfl, rfl, rfl, _, rfl, hr, rfl⟩
  · simp only [hm, exec_throw, Prod.mk.injEq] at h
    obtain ⟨⟨rfl, rfl⟩, rfl⟩ := h
    exact ⟨rfl, rfl, rfl, rfl⟩

/-- The overlay's mark lets a change through exactly when it is not refused. -/
theorem force_or_ne_of_not_refused {marked disable force : Bool}
    (h : ¬(marked == disable && !force) = true) : force = true ∨ marked ≠ disable := by
  cases marked <;> cases disable <;> cases force <;> simp_all

/-- Every application of a toggle on the bench ends in one of the `Ending`s. -/
theorem apply_applied (t : Toggle) (opts : Options) {J J' : List Audit.Event} {b b' : Bench}
    {x : Except Abort Reply}
    (h : exec ((station ep facts user ov sh au).apply t opts) J b = ((x, J'), b')) :
    Applied (station ep facts user ov sh au) t.key t.entry t.disable opts J b x J' b' := by
  cases ov
  · simp [Station.apply] at h
    obtain ⟨⟨rfl, rfl⟩, rfl⟩ := h
    exact .of_stop (faultReply_result _)
  cases sh
  · simp [Station.apply] at h
    obtain ⟨⟨rfl, rfl⟩, rfl⟩ := h
    exact .of_stop (faultReply_result _)
  simp only [Station.apply, station_overlay, station_shell, if_true, exec_bind, exec_read] at h
  rcases hc : (station ep facts user true true au).lists.contains b.store t.key t.entry with f | marked
  · simp only [hc, exec_pure, Prod.mk.injEq] at h
    obtain ⟨⟨rfl, rfl⟩, rfl⟩ := h
    exact .of_stop (faultReply_result f)
  simp only [hc] at h
  by_cases hr : (marked == t.disable && !opts.force) = true
  · simp only [if_pos hr, exec_pure, Prod.mk.injEq] at h
    obtain ⟨⟨rfl, rfl⟩, rfl⟩ := h
    exact .of_stop rfl
  -- past the overlay's gate: one template is loaded
  have hp : Passes (station ep facts user true true au) t.key t.entry t.disable opts b.store :=
    ⟨rfl, marked, hc, force_or_ne_of_not_refused hr⟩
  simp only [if_neg hr, exec_bind] at h
  generalize ({ t.request with test := opts.test, debug := opts.debug } : Router.TemplateRequest) = req at h
  obtain ⟨res, b₁, he, hst, cmds, hlog, hle, hok⟩ := exec_load req J b
  rw [he] at h
  cases res with
  | error f =>
    simp only [exec_pure, Prod.mk.injEq] at h
    obtain ⟨⟨rfl, rfl⟩, rfl⟩ := h
    refine ⟨rfl, cmds, hlog, ?_⟩
    rw [hst]
    exact .stopped hle (fun _ => hp) (faultReply_result f)
  | ok c =>
    obtain ⟨hone, hres⟩ := hok c rfl
    by_cases hft : (opts.force || opts.test) = true
    · simp only [if_pos hft, exec_pure, Prod.mk.injEq] at h
      obtain ⟨⟨rfl, rfl⟩, rfl⟩ := h
      refine ⟨rfl, cmds, hlog, ?_⟩
      rw [hst, hone]
      exact .unmarked hp (by simpa using hft) hres rfl
    · simp only [if_neg hft] at h
      obtain ⟨hf, ht⟩ : opts.force = false ∧ opts.test = false := by simpa using hft
      obtain ⟨rfl, hsh, hw⟩ := markOverlay_written t hres rfl h
      refine ⟨rfl, cmds, by rw [hsh, hlog], ?_⟩
      rw [hone]
      rw [hst] at hw
      exact .marked hp hf ht hw

end Apply

end NetFleet.Control
