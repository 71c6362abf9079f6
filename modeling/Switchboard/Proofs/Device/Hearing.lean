import Switchboard.Proofs.Device.RadioRun
import Switchboard.Proofs.Replay

/-!
What an instance hears. It is asked, and it hears how each of its own transmissions ends; of the others it
hears only when one crashes the radio. An instance that has hardware to itself can be told the same.
-/

namespace Switchboard

/-- A radio that is told what becomes of the next transmission. -/
structure ToldRadio where
  outcome : Transmission

instance : Radio ToldRadio where
  transmit radio _ := (radio.outcome, radio)

/-- What an instance hears. -/
inductive Heard
  | asked (p : Payload)
  /-- Its oldest transmission that waits was made and came to this. -/
  | made (outcome : Transmission)
  /-- Its oldest transmission that waits was dropped. -/
  | dropped
  /-- The radio crashed at the hands of another. -/
  | lost
  | closed

/-- What an instance hears of what the worker does, when some of the jobs are its own. -/
def RadioEvent.heard (own : Waiting RadioJob → Bool) : RadioEvent → Option Heard
  | .ran entry outcome =>
    if own entry then some (.made outcome) else if outcome = .crashed then some .lost else none
  | .skipped entry => if own entry then some .dropped else none
  | _ => none

/-- An instance with hardware of its own. -/
structure Lone where
  protocol : RfSwitch
  hardware : Hardware ToldRadio Unit

namespace Lone

def start (seed : List SwitchConfig) (connection : String) (hasRadio : Bool) : Lone :=
  let (protocol, hardware) :=
    RfSwitch.start seed connection (.attach (⟨.sent⟩ : ToldRadio) () hasRadio false)
  { protocol, hardware }

def switches (x : Lone) : List Switch :=
  x.protocol.switches x.hardware

/-- The hardware when it is settled what becomes of the next transmission. -/
def told (x : Lone) (outcome : Transmission) : Hardware ToldRadio Unit :=
  { x.hardware with radio := ⟨outcome⟩ }

def hear (x : Lone) : Heard → Lone
  | .asked p =>
    let (_, protocol, hardware) := x.protocol.process p x.hardware
    { protocol, hardware }
  | .made outcome => { x with hardware := (x.told outcome).stepRadio }
  | .dropped => { x with hardware := x.hardware.stepRadio }
  | .lost => { x with hardware := { x.hardware with radioQueue := x.hardware.radioQueue.crash } }
  | .closed => { x with hardware := x.protocol.close x.hardware }

def reply? (x : Lone) : Heard → Option Payload
  | .asked p => some (x.protocol.process p x.hardware).1
  | _ => none

/-- An instance as a machine that is fed what it hears. -/
def machine : Machine Lone Heard where
  step := hear
  reply? := reply?

theorem waiting_start (seed : List SwitchConfig) (connection : String) (hasRadio : Bool) :
    (start seed connection hasRadio).hardware.radioQueue.waiting = [] := by
  cases hasRadio <;> rfl

theorem running_start (seed : List SwitchConfig) (connection : String) (hasRadio : Bool) :
    (start seed connection hasRadio).hardware.radioQueue.worker = .running ↔ hasRadio = true := by
  cases hasRadio with
  | true => exact iff_of_true rfl rfl
  | false => exact iff_of_false nofun nofun

theorem isCancelled_start (seed : List SwitchConfig) (connection : String) (hasRadio : Bool)
    (lease : Nat) :
    (start seed connection hasRadio).hardware.radioQueue.isCancelled lease = false := by
  cases hasRadio <;> rfl

theorem replies_heard (x : Lone) (own : Waiting RadioJob → Bool) (e : RadioEvent) :
    machine.replies x (e.heard own).toList = [] := by
  cases e with
  | ran entry outcome =>
      rw [RadioEvent.heard]
      split
      · rfl
      · split
        · rfl
        · rfl
  | skipped entry =>
      rw [RadioEvent.heard]
      split
      · rfl
      · rfl
  | _ => rfl

/-- What becomes of the jobs of others is not recorded with the switches. -/
theorem switches_heard (x : Lone) {own : Waiting RadioJob → Bool}
    (others : ∀ entry, own entry = false) (e : RadioEvent) :
    (machine.after x (e.heard own).toList).switches = x.switches := by
  cases e with
  | ran entry outcome =>
      rw [RadioEvent.heard, others, if_neg Bool.false_ne_true]
      split
      · rfl
      · rfl
  | skipped entry =>
      rw [RadioEvent.heard, others, if_neg Bool.false_ne_true]
      rfl
  | _ => rfl

end Lone

/-- How many jobs the worker takes at most. -/
def RadioStep.takes : RadioStep → Nat
  | .work => 1
  | _ => 0

namespace RadioRun

variable {R D : Type} [Radio R]

/-- The reply of a member in a step. -/
def reply? (r : RadioRun R D) (n : Nat) : RadioStep → Option Payload
  | .request m p =>
    if m = n then r.members[n]?.map fun member => (member.process p r.hardware).1 else none
  | _ => none

def owns (r : RadioRun R D) (n : Nat) (entry : Waiting RadioJob) : Bool :=
  r.members[n]?.any fun member => member.lease == entry.lease

end RadioRun

/-- A run in which a member has begun anew, and how many of the jobs from before that still wait. -/
structure Renewal (R D : Type) where
  run : RadioRun R D
  older : Nat

namespace Renewal

variable {R D : Type} [Radio R]

/-- The member begins anew at this moment. -/
def now (run : RadioRun R D) : Renewal R D where
  run
  older := run.hardware.radioQueue.waiting.length

def machine (n : Nat) : Machine (Renewal R D) RadioStep where
  step v s := { run := v.run.step s, older := v.older - s.takes }
  reply? v s := v.run.reply? n s

/-- What the member hears of a step. Jobs from before are none of its own any more. -/
def hears (n : Nat) (v : Renewal R D) : RadioStep → Option Heard
  | .join _ _ => none
  | .request m p => if m = n then some (.asked p) else none
  | .close m => if m = n then some .closed else none
  | .work => (RadioRun.nextTake v.run.hardware).heard fun entry => v.older == 0 && v.run.owns n entry

def after (v : Renewal R D) (n : Nat) (steps : List RadioStep) : Renewal R D :=
  (machine n).after v steps

def replies (v : Renewal R D) (n : Nat) (steps : List RadioStep) : List Payload :=
  (machine n).replies v steps

def heard (v : Renewal R D) (n : Nat) (steps : List RadioStep) : List Heard :=
  (machine n).noticed (hears n) v steps

end Renewal

end Switchboard
