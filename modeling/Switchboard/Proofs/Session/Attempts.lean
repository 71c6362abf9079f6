import Mathlib.Data.List.Induction
import Switchboard.Session.Connecting

/-!
Attempts to connect that overlap. Attempts and the connections they make are told apart by numbers that the
session does not know, and what has become of them is said of the steps alone.
-/

namespace Switchboard

/-- Something that happens to a session. Attempts are numbered in the order in which they start, and the
connection that an attempt makes has its number. -/
inductive SessionStep
  | start (address : String)
  | answer (attempt : Nat) (answer : Except ReachError Unit)
  /-- A task of the connection of an attempt reports that the connection has ended. -/
  | lose (attempt : Nat) (reason : String)
  | disconnect
  | forget
  | send (p : Payload)
  | aim (target : Target)
  /-- The connection of an attempt takes no more messages. -/
  | stop (attempt : Nat)

namespace SessionStep

def isStart : SessionStep → Bool
  | start _ => true
  | _ => false

/-- Tells of the steps that end whatever attempt or connection there is. -/
def interrupts : SessionStep → Bool
  | start _ => true
  | disconnect => true
  | forget => true
  | _ => false

def answers (attempt : Nat) : SessionStep → Bool
  | answer other _ => other == attempt
  | _ => false

def loses (attempt : Nat) : SessionStep → Bool
  | lose other _ => other == attempt
  | _ => false

end SessionStep

open SessionStep

def startsIn (steps : List SessionStep) : Nat :=
  steps.countP isStart

/-- An attempt has started and was not answered. -/
inductive Pending : List SessionStep → Nat → Prop
  | start (steps : List SessionStep) (address : String) :
    Pending (steps ++ [.start address]) (startsIn steps)
  | later {steps : List SessionStep} {attempt : Nat} (s : SessionStep) :
    Pending steps attempt → s.answers attempt = false → Pending (steps ++ [s]) attempt

/-- Of all starts, disconnections and forgettings the start of an attempt was the last, and the attempt was
not answered since. -/
inductive Awaited : List SessionStep → Nat → Prop
  | start (steps : List SessionStep) (address : String) :
    Awaited (steps ++ [.start address]) (startsIn steps)
  | later {steps : List SessionStep} {attempt : Nat} (s : SessionStep) :
    Awaited steps attempt → s.interrupts = false → s.answers attempt = false →
      Awaited (steps ++ [s]) attempt

/-- The connection of an attempt is there: the attempt has succeeded while it was the last, and since then
no attempt started, nobody disconnected or forgot, and the connection was not lost. -/
inductive Current : List SessionStep → Nat → Prop
  | made {steps : List SessionStep} {attempt : Nat} :
    Awaited steps attempt → Current (steps ++ [.answer attempt (.ok ())]) attempt
  | later {steps : List SessionStep} {attempt : Nat} (s : SessionStep) :
    Current steps attempt → s.interrupts = false → s.loses attempt = false →
      Current (steps ++ [s]) attempt

/-- An attempt is not answered yet, but another has started or somebody has disconnected or forgotten. -/
inductive Superseded : List SessionStep → Nat → Prop
  | interrupted {steps : List SessionStep} {attempt : Nat} (s : SessionStep) :
    Pending steps attempt → s.interrupts = true → Superseded (steps ++ [s]) attempt
  | later {steps : List SessionStep} {attempt : Nat} (s : SessionStep) :
    Superseded steps attempt → s.answers attempt = false → Superseded (steps ++ [s]) attempt

section steps

variable {steps : List SessionStep} {s : SessionStep} {attempt : Nat}

theorem startsIn_concat (steps : List SessionStep) (s : SessionStep) :
    startsIn (steps ++ [s]) = startsIn steps + if s.isStart then 1 else 0 := by
  rw [startsIn, List.countP_append, List.countP_singleton, startsIn]

theorem not_pending_nil : ¬Pending [] attempt := by
  intro pending
  generalize same : ([] : List SessionStep) = steps at pending
  cases pending <;> simp at same

theorem not_awaited_nil : ¬Awaited [] attempt := by
  intro awaited
  generalize same : ([] : List SessionStep) = steps at awaited
  cases awaited <;> simp at same

theorem not_current_nil : ¬Current [] attempt := by
  intro current
  generalize same : ([] : List SessionStep) = steps at current
  cases current <;> simp at same

theorem pending_concat :
    Pending (steps ++ [s]) attempt ↔
      (s.isStart = true ∧ attempt = startsIn steps) ∨ (Pending steps attempt ∧ s.answers attempt = false) := by
  constructor
  · intro pending
    generalize same : steps ++ [s] = after at pending
    cases pending with
    | start earlier address =>
        obtain ⟨rfl, rfl⟩ := List.append_singleton_inj.mp same
        exact .inl ⟨rfl, rfl⟩
    | later last earlier unanswered =>
        obtain ⟨rfl, rfl⟩ := List.append_singleton_inj.mp same
        exact .inr ⟨earlier, unanswered⟩
  · rintro (⟨starts, rfl⟩ | ⟨pending, unanswered⟩)
    · cases s with
      | start address => exact .start steps address
      | _ => cases starts
    · exact .later s pending unanswered

theorem awaited_concat :
    Awaited (steps ++ [s]) attempt ↔
      (s.isStart = true ∧ attempt = startsIn steps) ∨
        (Awaited steps attempt ∧ s.interrupts = false ∧ s.answers attempt = false) := by
  constructor
  · intro awaited
    generalize same : steps ++ [s] = after at awaited
    cases awaited with
    | start earlier address =>
        obtain ⟨rfl, rfl⟩ := List.append_singleton_inj.mp same
        exact .inl ⟨rfl, rfl⟩
    | later last earlier quiet unanswered =>
        obtain ⟨rfl, rfl⟩ := List.append_singleton_inj.mp same
        exact .inr ⟨earlier, quiet, unanswered⟩
  · rintro (⟨starts, rfl⟩ | ⟨awaited, quiet, unanswered⟩)
    · cases s with
      | start address => exact .start steps address
      | _ => cases starts
    · exact .later s awaited quiet unanswered

theorem current_concat :
    Current (steps ++ [s]) attempt ↔
      (s = .answer attempt (.ok ()) ∧ Awaited steps attempt) ∨
        (Current steps attempt ∧ s.interrupts = false ∧ s.loses attempt = false) := by
  constructor
  · intro current
    generalize same : steps ++ [s] = after at current
    cases current with
    | made awaited =>
        obtain ⟨rfl, rfl⟩ := List.append_singleton_inj.mp same
        exact .inl ⟨rfl, awaited⟩
    | later last earlier quiet kept =>
        obtain ⟨rfl, rfl⟩ := List.append_singleton_inj.mp same
        exact .inr ⟨earlier, quiet, kept⟩
  · rintro (⟨rfl, awaited⟩ | ⟨current, quiet, kept⟩)
    · exact .made awaited
    · exact .later s current quiet kept

theorem pending_answer (attempt other : Nat) (answer : Except ReachError Unit) :
    Pending (steps ++ [.answer attempt answer]) other ↔ Pending steps other ∧ other ≠ attempt := by
  simp [pending_concat, isStart, answers, @eq_comm Nat attempt]

theorem awaited_answer (attempt other : Nat) (answer : Except ReachError Unit) :
    Awaited (steps ++ [.answer attempt answer]) other ↔ Awaited steps other ∧ other ≠ attempt := by
  simp [awaited_concat, isStart, interrupts, answers, @eq_comm Nat attempt]

theorem current_answer (attempt other : Nat) (answer : Except ReachError Unit) :
    Current (steps ++ [.answer attempt answer]) other ↔
      (other = attempt ∧ answer = .ok () ∧ Awaited steps attempt) ∨ Current steps other := by
  rw [current_concat, SessionStep.answer.injEq]
  constructor
  · rintro (⟨⟨rfl, yes⟩, awaited⟩ | ⟨current, _, _⟩)
    · exact .inl ⟨rfl, yes, awaited⟩
    · exact .inr current
  · rintro (⟨rfl, yes, awaited⟩ | current)
    · exact .inl ⟨⟨rfl, yes⟩, awaited⟩
    · exact .inr ⟨current, rfl, rfl⟩

theorem Pending.lt_startsIn (h : Pending steps attempt) : attempt < startsIn steps := by
  induction h with
  | start steps address =>
      rw [startsIn_concat]
      exact Nat.lt_succ_self _
  | later s _ _ ih =>
      rw [startsIn_concat]
      omega

theorem Awaited.startsIn_eq (h : Awaited steps attempt) : startsIn steps = attempt + 1 := by
  induction h with
  | start steps address => rw [startsIn_concat, isStart, if_pos rfl]
  | later s _ quiet _ ih =>
      rw [startsIn_concat, ih]
      cases s with
      | start _ => cases quiet
      | _ => rfl

theorem Awaited.pending (h : Awaited steps attempt) : Pending steps attempt := by
  induction h with
  | start steps address => exact .start steps address
  | later s _ _ unanswered ih => exact .later s ih unanswered

theorem Current.startsIn_eq (h : Current steps attempt) : startsIn steps = attempt + 1 := by
  induction h with
  | made awaited =>
      rw [startsIn_concat, awaited.startsIn_eq]
      rfl
  | later s _ quiet _ ih =>
      rw [startsIn_concat, ih]
      cases s with
      | start _ => cases quiet
      | _ => rfl

theorem Current.not_pending (h : Current steps attempt) : ¬Pending steps attempt := by
  intro pending
  induction h with
  | made awaited =>
      obtain ⟨starts, _⟩ | ⟨_, unanswered⟩ := pending_concat.mp pending
      · cases starts
      · simp [answers] at unanswered
  | later s current _ _ ih =>
      obtain ⟨_, same⟩ | ⟨before, _⟩ := pending_concat.mp pending
      · have last := current.startsIn_eq
        omega
      · exact ih before

theorem Superseded.pending (h : Superseded steps attempt) : Pending steps attempt := by
  induction h with
  | interrupted s pending interrupts =>
      refine .later s pending ?_
      cases s with
      | answer _ _ => cases interrupts
      | _ => rfl
  | later s _ unanswered ih => exact .later s ih unanswered

theorem Superseded.not_awaited (h : Superseded steps attempt) : ¬Awaited steps attempt := by
  intro awaited
  induction h with
  | interrupted s pending interrupts =>
      obtain ⟨_, rfl⟩ | ⟨_, quiet, _⟩ := awaited_concat.mp awaited
      · exact Nat.lt_irrefl _ pending.lt_startsIn
      · rw [interrupts] at quiet
        cases quiet
  | later s superseded _ ih =>
      obtain ⟨_, rfl⟩ | ⟨before, _, _⟩ := awaited_concat.mp awaited
      · exact Nat.lt_irrefl _ superseded.pending.lt_startsIn
      · exact ih before

end steps

end Switchboard
