import NetFleet.Reply

/-!
# Faults in context

An operation that fails may add context to its fault on the way out, writing
`context: ` before the fault's message (`Fault.within`), and the caller may do
so again. A reply is made from a fault by asking its chain for a precondition,
for a missing column and for the sentinels of a refusal, and each of these
questions looks through a wrapping. So context changes a reply in one place
only: the comment of a fault whose chain holds neither a precondition nor a
missing column, which is the fault's message and so carries the context.

    ofFault (wrap before after f) = ofFault f, with the comment replaced by the
                                     wrapped message unless f's chain holds a
                                     precondition or a missing column

`ofFault_wrap` is that law for one wrapping, `ofFault_withinAll` for a chain of
contexts, and `wrapping_keeps_class` reads off what a caller relies on: whether
the reply succeeded, whether it reports an error of the system, and the comment
of a precondition or a missing column are those of the fault without context.
-/

namespace NetFleet

namespace Fault

/-! ### The questions a reply asks look through a wrapping -/

@[simp] theorem precondition?_wrap (before after : String) (f : Fault) :
    (wrap before after f).precondition? = f.precondition? := rfl

@[simp] theorem columnNotFound?_wrap (before after : String) (f : Fault) :
    (wrap before after f).columnNotFound? = f.columnNotFound? := rfl

@[simp] theorem isA_wrap (s : Sentinel) (before after : String) (f : Fault) :
    (wrap before after f).isA s = f.isA s := rfl

@[simp] theorem message_wrap (before after : String) (f : Fault) :
    (wrap before after f).message = before ++ f.message ++ after := rfl

/-- A fault inside a chain of contexts, the outermost first:
`withinAll ["a", "b"] f` reads `a: b: ` and then the message of `f`. -/
def withinAll (contexts : List String) (f : Fault) : Fault := contexts.foldr within f

@[simp] theorem withinAll_nil (f : Fault) : withinAll [] f = f := rfl

@[simp] theorem withinAll_cons (c : String) (cs : List String) (f : Fault) :
    withinAll (c :: cs) f = within c (withinAll cs f) := rfl

@[simp] theorem precondition?_withinAll (cs : List String) (f : Fault) :
    (withinAll cs f).precondition? = f.precondition? := by
  induction cs with
  | nil => rfl
  | cons c cs ih => simpa [within] using ih

@[simp] theorem columnNotFound?_withinAll (cs : List String) (f : Fault) :
    (withinAll cs f).columnNotFound? = f.columnNotFound? := by
  induction cs with
  | nil => rfl
  | cons c cs ih => simpa [within] using ih

theorem message_withinAll (cs : List String) (f : Fault) :
    (withinAll cs f).message = String.join (cs.map (· ++ ": ")) ++ f.message := by
  induction cs with
  | nil => simp
  | cons c cs ih =>
    rw [withinAll_cons, within, message_wrap, ih, List.map_cons, String.join_cons,
      String.append_empty]
    simp only [String.append_assoc]

end Fault

open Fault

/-! ### The reply of a wrapped fault -/

/-- Whether a fault's reply takes its comment from the fault's chain rather than
from its message: a precondition (the condition) or a missing column. -/
def Fault.commentFromChain (f : Fault) : Bool := f.precondition?.isSome || f.columnNotFound?.isSome

/-- The comment of a fault whose comment is not taken from its chain is its
message. -/
theorem ofFault_comment_of_message {f : Fault} (h : f.commentFromChain = false) :
    (Reply.ofFault (some f)).comment = f.message := by
  simp only [commentFromChain, Bool.or_eq_false_iff, Option.isSome_eq_false_iff,
    Option.isNone_iff_eq_none] at h
  simp only [Reply.ofFault, h.1, h.2]
  split <;> rfl

/-- One wrapping keeps the reply of a fault, but for the comment of a fault whose
comment is its message. -/
theorem ofFault_wrap (before after : String) (f : Fault) :
    Reply.ofFault (some (.wrap before after f)) =
      if f.commentFromChain then Reply.ofFault (some f)
      else { Reply.ofFault (some f) with comment := (wrap before after f).message } := by
  rcases hp : f.precondition? with _ | cond
  · rcases hc : f.columnNotFound? with _ | msg
    · -- neither a precondition nor a missing column: the sentinels decide, and
      -- they are the same on both sides
      simp only [Reply.ofFault, precondition?_wrap, columnNotFound?_wrap, isA_wrap, hp, hc,
        commentFromChain, Option.isSome_none, Bool.or_false, Bool.false_eq_true, if_false]
      split <;> simp_all [Reply.fail]
    · simp [Reply.ofFault, commentFromChain, hp, hc]
  · simp [Reply.ofFault, commentFromChain, hp]

/-- A chain of contexts keeps the reply of a fault, but for the comment of a
fault whose comment is its message, which becomes the message in context. -/
theorem ofFault_withinAll (cs : List String) (f : Fault) :
    Reply.ofFault (some (withinAll cs f)) =
      if f.commentFromChain then Reply.ofFault (some f)
      else { Reply.ofFault (some f) with comment := (withinAll cs f).message } := by
  induction cs with
  | nil =>
    split
    · rfl
    · rename_i h
      rw [withinAll_nil, ← ofFault_comment_of_message (by simpa using h)]
      -- a reply is its own update with its own comment
      cases Reply.ofFault (some f)
      rfl
  | cons c cs ih =>
    have hchain : (withinAll cs f).commentFromChain = f.commentFromChain := by
      simp [commentFromChain]
    rw [withinAll_cons, within, ofFault_wrap, hchain, ih]
    split <;> rfl

/-- How a fault is classified does not depend on the context it was wrapped in:
the reply's result, its error flag and whether it reports an error of the system
are those of the bare fault, and so is the comment of a precondition or a missing
column; any other comment is the message in context. -/
theorem wrapping_keeps_class (cs : List String) (f : Fault) :
    (Reply.ofFault (some (withinAll cs f))).result = (Reply.ofFault (some f)).result ∧
      (Reply.ofFault (some (withinAll cs f))).error = (Reply.ofFault (some f)).error ∧
      (Reply.ofFault (some (withinAll cs f))).isBackendError =
        (Reply.ofFault (some f)).isBackendError ∧
      (Reply.ofFault (some (withinAll cs f))).comment =
        if f.commentFromChain then (Reply.ofFault (some f)).comment
        else String.join (cs.map (· ++ ": ")) ++ f.message := by
  rw [ofFault_withinAll]
  split
  · exact ⟨rfl, rfl, rfl, rfl⟩
  · exact ⟨rfl, rfl, rfl, message_withinAll cs f⟩

/-- An unmet precondition keeps its condition as the comment, in any context. -/
example : (Reply.ofFault (some (withinAll ["reading"] (.precondition "op" "eth0" "is up" ""))))
    = Reply.fail "is up" := rfl

end NetFleet
