import Mathlib.Data.List.Induction
import Switchboard.Proofs.Device.RfTurns
import Switchboard.Proofs.Hardware.RadioJobs
import Switchboard.Proofs.Log

/-!
Runs of a radio that many connections share. Connections join, make requests and close in any order, and in
between the worker takes jobs one by one. What happened is kept in a log, and what has come out of a run is
said of its log.
-/

namespace Switchboard

inductive RadioStep
  | join (connection : String) (seed : List SwitchConfig)
  | request (member : Nat) (p : Payload)
  | close (member : Nat)
  | work

inductive RadioEvent
  | joined (lease : Nat)
  | replied (reply : Payload) (queued : List (Waiting RadioJob))
  | closed (lease : Nat)
  | ran (entry : Waiting RadioJob) (outcome : Transmission)
  | skipped (entry : Waiting RadioJob)
  | idle
  deriving DecidableEq

namespace RadioEvent

def queued : RadioEvent → List (Waiting RadioJob)
  | replied _ queued => queued
  | _ => []

/-- The job that the worker took, to run it or to skip it. -/
def taken? : RadioEvent → Option (Waiting RadioJob)
  | ran entry _ => some entry
  | skipped entry => some entry
  | _ => none

def ran? : RadioEvent → Option (RadioJob × Transmission)
  | ran entry outcome => some (entry.job, outcome)
  | _ => none

/-- A job is skipped if its lease was closed before, and otherwise it runs. -/
def Follows (earlier : List RadioEvent) : RadioEvent → Prop
  | ran entry _ => .closed entry.lease ∉ earlier
  | skipped entry => .closed entry.lease ∈ earlier
  | _ => True

end RadioEvent

def queuedIn (log : List RadioEvent) : List (Waiting RadioJob) :=
  log.flatMap RadioEvent.queued

def takenIn (log : List RadioEvent) : List (Waiting RadioJob) :=
  log.filterMap RadioEvent.taken?

def ranIn (log : List RadioEvent) : List (RadioJob × Transmission) :=
  log.filterMap RadioEvent.ran?

section log

variable (log : List RadioEvent) (e : RadioEvent)

theorem queuedIn_concat : queuedIn (log ++ [e]) = queuedIn log ++ e.queued := by
  simp [queuedIn]

theorem takenIn_concat : takenIn (log ++ [e]) = takenIn log ++ e.taken?.toList := by
  cases e <;> simp [takenIn, RadioEvent.taken?]

theorem ranIn_concat : ranIn (log ++ [e]) = ranIn log ++ e.ran?.toList := by
  cases e <;> simp [ranIn, RadioEvent.ran?]

end log

structure RadioRun (R D : Type) where
  hardware : Hardware R D
  members : List RfSwitch := []
  log : List RadioEvent := []

namespace RadioRun

variable {R D : Type} [Radio R]

/-- What the worker is about to do. -/
def nextTake (h : Hardware R D) : RadioEvent :=
  match h.radioQueue.take?, h.radioQueue.waiting with
  | some (some job, _), entry :: _ => .ran ⟨entry.lease, job⟩ (Radio.transmit h.radio job.code).1
  | some (none, _), entry :: _ => .skipped entry
  | _, _ => .idle

def step (r : RadioRun R D) : RadioStep → RadioRun R D
  | .join connection seed =>
    let (member, hardware) := RfSwitch.start seed connection r.hardware
    { hardware, members := r.members ++ [member], log := r.log ++ [.joined member.lease] }
  | .request n p =>
    match r.members[n]? with
    | none => r
    | some member =>
      let (reply, member, hardware) := member.process p r.hardware
      let queued := hardware.radioQueue.waiting.drop r.hardware.radioQueue.waiting.length
      { hardware, members := r.members.set n member, log := r.log ++ [.replied reply queued] }
  | .close n =>
    match r.members[n]? with
    | none => r
    | some member =>
      { r with hardware := member.close r.hardware, log := r.log ++ [.closed member.lease] }
  | .work => { r with hardware := r.hardware.stepRadio, log := r.log ++ [nextTake r.hardware] }

def after (radio : R) (dongle : D) (hasDongle : Bool) (steps : List RadioStep) : RadioRun R D :=
  steps.foldl step { hardware := .attach radio dongle true hasDongle }

theorem after_concat (radio : R) (dongle : D) (hasDongle : Bool) (steps : List RadioStep)
    (s : RadioStep) :
    after radio dongle hasDongle (steps ++ [s]) = (after radio dongle hasDongle steps).step s := by
  simp [after]

variable {r : RadioRun R D} {n : Nat} {member : RfSwitch}

theorem step_request (p : Payload) (found : r.members[n]? = some member) :
    r.step (.request n p) =
      let (reply, next, hardware) := member.process p r.hardware
      let queued := hardware.radioQueue.waiting.drop r.hardware.radioQueue.waiting.length
      { hardware, members := r.members.set n next, log := r.log ++ [.replied reply queued] } := by
  rw [step, found]

theorem step_close (found : r.members[n]? = some member) :
    r.step (.close n) =
      { r with hardware := member.close r.hardware, log := r.log ++ [.closed member.lease] } := by
  rw [step, found]

/-- What the worker can do to the hardware, and the event that it is. -/
inductive Worked (h : Hardware R D) : RadioEvent → Hardware R D → Prop
  | idle : (h.radioQueue.worker = .running → h.radioQueue.waiting = []) → Worked h .idle h
  | skipped {entry : Waiting RadioJob} {rest : List (Waiting RadioJob)} :
    h.radioQueue.worker = .running → h.radioQueue.waiting = entry :: rest →
    h.radioQueue.isCancelled entry.lease = true → Worked h (.skipped entry) (h.taking rest)
  | ran {entry : Waiting RadioJob} {rest : List (Waiting RadioJob)} :
    h.radioQueue.worker = .running → h.radioQueue.waiting = entry :: rest →
    ¬h.radioQueue.isCancelled entry.lease = true →
      Worked h (.ran entry (Radio.transmit h.radio entry.job.code).1)
        ((h.taking rest).runRadio entry.job)

theorem worked (h : Hardware R D) : Worked h (nextTake h) h.stepRadio := by
  by_cases running : h.radioQueue.worker = .running
  · cases waiting : h.radioQueue.waiting with
    | nil =>
        rw [nextTake, JobQueue.take?_of_nil waiting, Hardware.stepRadio_of_nil waiting]
        exact .idle fun _ => waiting
    | cons entry rest =>
        rw [nextTake, JobQueue.take?_of_cons running waiting, waiting,
          Hardware.stepRadio_of_cons running waiting]
        cases cancelled : h.radioQueue.isCancelled entry.lease with
        | true => exact .skipped running waiting cancelled
        | false => exact .ran running waiting (Bool.eq_false_iff.mp cancelled)
  · rw [nextTake, JobQueue.take?_of_stopped running, Hardware.stepRadio_of_stopped running]
    exact .idle fun runs => absurd runs running

end RadioRun

/-- How a run stands to its log. -/
structure Airing {R D : Type} [Radio R] (radio : R) (r : RadioRun R D) : Prop where
  running : r.hardware.radioQueue.worker = .running
  leases : (r.members.map RfSwitch.lease).Nodup
  leases_lt : ∀ lease ∈ r.members.map RfSwitch.lease, lease < r.hardware.radioQueue.nextLease
  cancelled_iff : ∀ lease, r.hardware.radioQueue.isCancelled lease = true ↔ .closed lease ∈ r.log
  fifo : queuedIn r.log = takenIn r.log ++ r.hardware.radioQueue.waiting
  follows : ∀ p (e : RadioEvent), r.log[p]? = some e → e.Follows (r.log.take p)
  radio_eq : transmitAll radio ((ranIn r.log).map fun ran => ran.1.code) =
    ((ranIn r.log).map Prod.snd, r.hardware.radio)
  outbox_eq : r.hardware.outbox =
    (ranIn r.log).map fun ran => (ran.1.connection, ran.1.result ran.2)

namespace Airing

variable {R D : Type} [Radio R] {radio : R} {r : RadioRun R D}

theorem start (radio : R) (dongle : D) (hasDongle : Bool) :
    Airing radio { hardware := Hardware.attach radio dongle true hasDongle } where
  running := rfl
  leases := List.nodup_nil
  leases_lt := by simp
  cancelled_iff lease := by simp [Hardware.attach, JobQueue.spawn, JobQueue.isCancelled]
  fifo := rfl
  follows := by simp
  radio_eq := rfl
  outbox_eq := rfl

theorem ready_iff (h : Airing radio r) (member : RfSwitch) :
    member.ready r.hardware = true ↔ .closed member.lease ∉ r.log := by
  have available : r.hardware.radioQueue.isAvailable = true := by
    rw [JobQueue.isAvailable, h.running]
    rfl
  rw [RfSwitch.ready, JobQueue.leaseAvailable, available, Bool.and_true, Bool.not_eq_true',
    ← Bool.not_eq_true, h.cancelled_iff]

/-- A step in which nothing is transmitted. -/
theorem quiet (h : Airing radio r) {r' : RadioRun R D} {e : RadioEvent} (log : r'.log = r.log ++ [e])
    (silent : e.ran? = none) (follows : e.Follows r.log)
    (running : r'.hardware.radioQueue.worker = .running)
    (leases : (r'.members.map RfSwitch.lease).Nodup)
    (leases_lt : ∀ lease ∈ r'.members.map RfSwitch.lease, lease < r'.hardware.radioQueue.nextLease)
    (cancelled_iff : ∀ lease, r'.hardware.radioQueue.isCancelled lease = true ↔
      r.hardware.radioQueue.isCancelled lease = true ∨ .closed lease = e)
    (fifo : r.hardware.radioQueue.waiting ++ e.queued =
      e.taken?.toList ++ r'.hardware.radioQueue.waiting)
    (radio_eq : r'.hardware.radio = r.hardware.radio)
    (outbox_eq : r'.hardware.outbox = r.hardware.outbox) : Airing radio r' := by
  have ran : ranIn r'.log = ranIn r.log := by
    rw [log, ranIn_concat, silent, Option.toList_none, List.append_nil]
  refine ⟨running, leases, leases_lt, ?_, ?_, ?_, ?_, ?_⟩
  · intro lease
    rw [cancelled_iff, log, List.mem_append, List.mem_singleton, h.cancelled_iff]
  · rw [log, queuedIn_concat, takenIn_concat, h.fifo, List.append_assoc, fifo, List.append_assoc]
  · rw [log]
    exact follows_concat h.follows follows
  · rw [ran, radio_eq, h.radio_eq]
  · rw [ran, outbox_eq, h.outbox_eq]

theorem join (h : Airing radio r) (connection : String) (seed : List SwitchConfig) :
    Airing radio (r.step (.join connection seed)) := by
  have members : (r.step (.join connection seed)).members.map RfSwitch.lease =
      r.members.map RfSwitch.lease ++ [r.hardware.radioQueue.nextLease] := List.map_append
  refine h.quiet rfl rfl trivial h.running ?_ ?_ ?_ (List.append_nil _) rfl rfl
  · rw [members]
    exact nodup_concat_of_lt h.leases h.leases_lt
  · intro lease mem
    rw [members, List.mem_append, List.mem_singleton] at mem
    rcases mem with old | rfl
    · exact Nat.lt_succ_of_lt (h.leases_lt lease old)
    · exact Nat.lt_succ_self _
  · intro lease
    simp only [reduceCtorEq, or_false]
    rfl

theorem request (h : Airing radio r) (n : Nat) (p : Payload) :
    Airing radio (r.step (.request n p)) := by
  cases found : r.members[n]? with
  | none =>
      rw [RadioRun.step, found]
      exact h
  | some member =>
      have turn := rfTurn_process member r.hardware p
      have queue := turn.radioQueue_eq
      have leases : (r.members.set n (member.process p r.hardware).2.1).map RfSwitch.lease =
          r.members.map RfSwitch.lease := map_set_same found turn.lease_eq
      rw [RadioRun.step_request p found]
      refine h.quiet rfl rfl trivial ?_ ?_ ?_ ?_ ?_ turn.radio_eq turn.outbox_eq
      · exact (congrArg JobQueue.worker queue).trans h.running
      · exact leases ▸ h.leases
      · intro lease mem
        rw [leases] at mem
        rw [queue]
        exact h.leases_lt lease mem
      · intro lease
        rw [queue]
        simp only [reduceCtorEq, or_false]
        rfl
      · rw [queue]
        simp [Hardware.queueing, RadioEvent.queued, RadioEvent.taken?]

theorem close (h : Airing radio r) (n : Nat) : Airing radio (r.step (.close n)) := by
  cases found : r.members[n]? with
  | none =>
      rw [RadioRun.step, found]
      exact h
  | some member =>
      have queue : (member.close r.hardware).radioQueue = r.hardware.radioQueue.cancel member.lease :=
        rfl
      rw [RadioRun.step_close found]
      refine h.quiet rfl rfl trivial ?_ h.leases ?_ ?_ ?_ rfl rfl
      · rw [queue, JobQueue.cancel_worker, h.running]
      · intro lease mem
        rw [queue, JobQueue.cancel_nextLease]
        exact h.leases_lt lease mem
      · intro lease
        rw [queue, JobQueue.isCancelled_cancel, Bool.or_eq_true, beq_iff_eq, RadioEvent.closed.injEq,
          @eq_comm Nat lease]
      · rw [queue, JobQueue.cancel_waiting]
        exact List.append_nil _

theorem ran (h : Airing radio r) {entry : Waiting RadioJob} {rest : List (Waiting RadioJob)}
    (steady : ∀ (radio : R) code, (Radio.transmit radio code).1 ≠ .crashed)
    (waiting : r.hardware.radioQueue.waiting = entry :: rest)
    (live : RadioEvent.closed entry.lease ∉ r.log) :
    Airing radio
      { r with
        hardware := (r.hardware.taking rest).runRadio entry.job
        log := r.log ++ [.ran entry (Radio.transmit r.hardware.radio entry.job.code).1] } := by
  have alive : (Radio.transmit (r.hardware.taking rest).radio entry.job.code).1 ≠ .crashed :=
    steady r.hardware.radio entry.job.code
  obtain ⟨queue, outbox⟩ := Hardware.runRadio_of_alive entry.job alive
  refine ⟨?_, h.leases, ?_, ?_, ?_, follows_concat h.follows live, ?_, ?_⟩
  · rw [queue]
    exact h.running
  · rw [queue]
    exact h.leases_lt
  · intro lease
    simp only [queue, List.mem_append, List.mem_singleton, reduceCtorEq, or_false]
    exact h.cancelled_iff lease
  · rw [queuedIn_concat, takenIn_concat, queue, h.fifo, waiting]
    simp [RadioEvent.queued, RadioEvent.taken?, Hardware.taking]
  · rw [ranIn_concat, RadioEvent.ran?, Option.toList_some, List.map_append, List.map_append,
      List.map_singleton, List.map_singleton, transmitAll_concat, h.radio_eq, Hardware.runRadio_radio]
    rfl
  · rw [ranIn_concat, RadioEvent.ran?, Option.toList_some, List.map_append, List.map_singleton, outbox,
      ← h.outbox_eq]
    rfl

theorem work (steady : ∀ (radio : R) code, (Radio.transmit radio code).1 ≠ .crashed)
    (h : Airing radio r) : Airing radio (r.step .work) := by
  have worked := RadioRun.worked r.hardware
  rw [RadioRun.step]
  generalize RadioRun.nextTake r.hardware = e, r.hardware.stepRadio = next at worked
  cases worked with
  | idle =>
      refine h.quiet rfl rfl trivial h.running h.leases h.leases_lt ?_ (List.append_nil _) rfl rfl
      simp only [reduceCtorEq, or_false, implies_true]
  | @skipped entry rest _ waiting cancelled =>
      have closed := (h.cancelled_iff entry.lease).mp cancelled
      refine h.quiet rfl rfl closed h.running h.leases h.leases_lt ?_ ?_ rfl rfl
      · intro lease
        simp only [reduceCtorEq, or_false]
        rfl
      · rw [waiting]
        exact List.append_nil _
  | @ran entry _ _ waiting live =>
      exact h.ran steady waiting fun closed => live ((h.cancelled_iff entry.lease).mpr closed)

theorem step (steady : ∀ (radio : R) code, (Radio.transmit radio code).1 ≠ .crashed)
    (h : Airing radio r) (s : RadioStep) : Airing radio (r.step s) := by
  cases s with
  | join connection seed => exact h.join connection seed
  | request n p => exact h.request n p
  | close n => exact h.close n
  | work => exact h.work steady

theorem after (steady : ∀ (radio : R) code, (Radio.transmit radio code).1 ≠ .crashed) (radio : R)
    (dongle : D) (hasDongle : Bool) (steps : List RadioStep) :
    Airing radio (RadioRun.after radio dongle hasDongle steps) := by
  induction steps using List.reverseRecOn with
  | nil => exact start radio dongle hasDongle
  | append_singleton steps s ih =>
      rw [RadioRun.after_concat]
      exact ih.step steady s

end Airing

/-- What every run of a radio keeps to, when it never crashes. -/
structure AirtimeLaw {R D : Type} [Radio R] (radio : R) (r : RadioRun R D) : Prop where
  leases : (r.members.map RfSwitch.lease).Nodup
  /-- The radio is ready for a connection until that connection closes. -/
  ready_iff : ∀ member ∈ r.members, member.ready r.hardware = true ↔ .closed member.lease ∉ r.log
  /-- A reply announces transmissions exactly when the request is due some. -/
  announced : ∀ member ∈ r.members, ∀ p,
    Announces (member.process p r.hardware).1 ↔ (member.due r.hardware p).isSome
  /-- What a request is due comes behind all that waits, under the lease of its connection. -/
  queued : ∀ member ∈ r.members, ∀ p,
    (member.process p r.hardware).2.2.radioQueue.waiting = r.hardware.radioQueue.waiting ++
      ((member.due r.hardware p).getD []).map (Waiting.mk member.lease)
  logged : ∀ n member p, r.members[n]? = some member →
    (r.step (.request n p)).log = r.log ++ [.replied (member.process p r.hardware).1
      (((member.due r.hardware p).getD []).map (Waiting.mk member.lease))]
  /-- All that was queued has been taken or waits, in the order of submission. -/
  fifo : queuedIn r.log = takenIn r.log ++ r.hardware.radioQueue.waiting
  /-- What was taken has run unless its connection was closed before. -/
  ran : ∀ p entry outcome, r.log[p]? = some (.ran entry outcome) →
    .closed entry.lease ∉ r.log.take p
  skipped : ∀ p entry, r.log[p]? = some (.skipped entry) → .closed entry.lease ∈ r.log.take p
  /-- The codes that the radio was given are those of the jobs that ran, in that order. -/
  radio_eq : transmitAll radio ((ranIn r.log).map fun ran => ran.1.code) =
    ((ranIn r.log).map Prod.snd, r.hardware.radio)
  /-- Every job that ran has put its result into the outbox of its connection, in that order. -/
  outbox_eq : r.hardware.outbox =
    (ranIn r.log).map fun ran => (ran.1.connection, ran.1.result ran.2)
  /-- While something waits, the worker takes the first of it. -/
  worked : ∀ entry rest, r.hardware.radioQueue.waiting = entry :: rest →
    (r.step .work).hardware.radioQueue.waiting = rest

theorem airtime_law {R D : Type} [Radio R]
    (steady : ∀ (radio : R) code, (Radio.transmit radio code).1 ≠ .crashed) (radio : R) (dongle : D)
    (hasDongle : Bool) (steps : List RadioStep) :
    AirtimeLaw radio (RadioRun.after radio dongle hasDongle steps) := by
  have airing := Airing.after steady radio dongle hasDongle steps
  generalize RadioRun.after radio dongle hasDongle steps = r at airing
  have waiting (member : RfSwitch) (p : Payload) :
      (member.process p r.hardware).2.2.radioQueue.waiting = r.hardware.radioQueue.waiting ++
        ((member.due r.hardware p).getD []).map (Waiting.mk member.lease) := by
    rw [(rfTurn_process member r.hardware p).radioQueue_eq]
    rfl
  refine ⟨airing.leases, fun member _ => airing.ready_iff member, ?_, fun member _ => waiting member, ?_,
    airing.fifo, ?_, ?_, airing.radio_eq, airing.outbox_eq, ?_⟩
  · intro member _ p
    exact (rfTurn_process member r.hardware p).announces_iff
  · intro n member p found
    rw [RadioRun.step_request p found]
    simp only [waiting, List.drop_left]
  · intro p entry outcome found
    exact airing.follows p _ found
  · intro p entry found
    exact airing.follows p _ found
  · intro entry rest first
    rw [RadioRun.step, Hardware.stepRadio_of_cons airing.running first]
    split
    · rfl
    · rw [(Hardware.runRadio_of_alive _ (steady _ _)).1]
      rfl

/-- Two connections queue a transmission each, and the first closes before the worker takes either. -/
def closedEarly : List RadioStep :=
  [.join "a" [⟨"lamp", 1, 2⟩], .join "b" [⟨"fan", 3, 4⟩], .request 0 (.request "AllOff"),
    .request 1 (.request "AllOff"), .close 0, .work, .work]

theorem simulated_airtime :
    (∀ (radio : SimulatedRadio) code, (Radio.transmit radio code).1 ≠ .crashed) ∧
      AirtimeLaw {} (RadioRun.after ({} : SimulatedRadio) () false closedEarly) ∧
      (RadioRun.after ({} : SimulatedRadio) () false closedEarly).hardware.radio.sent = [4] := by
  have steady : ∀ (radio : SimulatedRadio) code, (Radio.transmit radio code).1 ≠ .crashed := by
    intro radio code crashed
    cases crashed
  exact ⟨steady, airtime_law steady {} () false closedEarly, by decide⟩

end Switchboard
