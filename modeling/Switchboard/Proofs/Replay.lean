import Mathlib.Data.List.Basic
import Switchboard.Payload.Basic

/-!
Machines that take steps and reply to some of them. A machine can be followed by another that learns of some of
its steps only, and then both give the same replies.
-/

namespace Switchboard

/-- A machine in a state of `S` that takes the steps of `E`. -/
structure Machine (S E : Type) where
  step : S → E → S
  reply? : S → E → Option Payload

namespace Machine

variable {S E T F : Type}

def after (a : Machine S E) (s : S) (steps : List E) : S :=
  steps.foldl a.step s

def replies (a : Machine S E) : S → List E → List Payload
  | _, [] => []
  | s, e :: rest => (a.reply? s e).toList ++ replies a (a.step s e) rest

/-- What is noticed of the steps of a machine. -/
def noticed (a : Machine S E) (notices : S → E → Option F) : S → List E → List F
  | _, [] => []
  | s, e :: rest => (notices s e).toList ++ noticed a notices (a.step s e) rest

theorem after_append (a : Machine S E) (s : S) (steps later : List E) :
    a.after s (steps ++ later) = a.after (a.after s steps) later :=
  List.foldl_append

theorem replies_append (a : Machine S E) (s : S) (steps later : List E) :
    a.replies s (steps ++ later) = a.replies s steps ++ a.replies (a.after s steps) later := by
  induction steps generalizing s with
  | nil => rfl
  | cons e rest ih =>
      rw [List.cons_append, replies, ih, replies, List.append_assoc]
      rfl

/-- A step of one machine is noticed by another, which gives the same reply, or it goes unnoticed, and then
there is none. -/
structure Matched (a : Machine S E) (b : Machine T F) (notices : S → E → Option F) (Follows : S → T → Prop)
    (s : S) (t : T) (e : E) : Prop where
  reply : (a.reply? s e).toList = b.replies t (notices s e).toList
  follows : Follows (a.step s e) (b.after t (notices s e).toList)

section matched

variable {a : Machine S E} {b : Machine T F} {notices : S → E → Option F} {Follows : S → T → Prop} {s : S}
  {t : T} {e : E}

theorem Matched.noticed {f : F} (noticed : notices s e = some f) (reply : a.reply? s e = b.reply? t f)
    (follows : Follows (a.step s e) (b.step t f)) : a.Matched b notices Follows s t e := by
  refine ⟨?_, ?_⟩
  · rw [noticed, reply]
    exact (List.append_nil _).symm
  · rw [noticed]
    exact follows

theorem Matched.unnoticed (unnoticed : notices s e = none) (silent : a.reply? s e = none)
    (follows : Follows (a.step s e) t) : a.Matched b notices Follows s t e := by
  refine ⟨?_, ?_⟩
  · rw [unnoticed, silent]
    rfl
  · rw [unnoticed]
    exact follows

/-- Where every step is matched, every run is. -/
theorem replies_of_matched (matched : ∀ s t e, Follows s t → a.Matched b notices Follows s t e)
    (follows : Follows s t) (steps : List E) :
    a.replies s steps = b.replies t (a.noticed notices s steps) ∧
      Follows (a.after s steps) (b.after t (a.noticed notices s steps)) := by
  -- A step that goes unnoticed leaves the second machine where it is, so its state must be any that follows.
  induction steps generalizing s t with
  | nil => exact ⟨rfl, follows⟩
  | cons e rest ih =>
      obtain ⟨reply, next⟩ := matched s t e follows
      obtain ⟨replies, last⟩ := ih next
      rw [Machine.replies, noticed, replies_append, after_append, reply, replies]
      exact ⟨rfl, last⟩

end matched

end Machine

end Switchboard
