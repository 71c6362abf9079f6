import Mathlib.Data.List.Induction
import Switchboard.Proofs.Device.ZigBeeTurns
import Switchboard.Proofs.Hardware.DongleJobs
import Switchboard.Proofs.Log

/-!
Runs of a dongle that many connections share. Connections join, make requests and close in any order, the
dongle raises events, and in between the worker takes jobs one by one. Every event that is raised reaches
one connection: the one whose job polls next.
-/

namespace Switchboard

inductive DongleStep
  | join (connection : String) (config : ZigBeeConfig)
  | request (member : Nat) (p : Payload)
  | close (member : Nat)
  | work
  /-- Events are raised while no job runs. -/
  | raise (events : List NetworkEvent)

/-- What a job that ran did to the dongle. -/
structure DongleVisit where
  entry : Waiting DongleJob
  result : Except Failure Payload
  /-- The events raised while the job ran. -/
  raised : List NetworkEvent
  polled : List NetworkEvent

inductive DongleEvent
  | joined (lease : Nat)
  | replied (reply : Payload) (queued : List (Waiting DongleJob))
  | closed (lease : Nat)
  | raised (events : List NetworkEvent)
  | ran (visit : DongleVisit)
  | skipped (entry : Waiting DongleJob)
  | idle

namespace DongleEvent

def queued : DongleEvent → List (Waiting DongleJob)
  | replied _ queued => queued
  | _ => []

def visits : DongleEvent → List DongleVisit
  | ran visit => [visit]
  | _ => []

/-- The job that the worker took, to run it or to skip it. -/
def taken : DongleEvent → List (Waiting DongleJob)
  | ran visit => [visit.entry]
  | skipped entry => [entry]
  | _ => []

/-- What the dongle raised, on its own or at the hands of a job. -/
def raisings : DongleEvent → List NetworkEvent
  | raised events => events
  | ran visit => visit.raised
  | _ => []

/-- A job is skipped if its lease was closed before, and otherwise it runs. -/
def Follows (earlier : List DongleEvent) : DongleEvent → Prop
  | ran visit => .closed visit.entry.lease ∉ earlier
  | skipped entry => .closed entry.lease ∈ earlier
  | _ => True

end DongleEvent

/-- What a visit puts out for the connection of its job. -/
def DongleVisit.messages (visit : DongleVisit) : List (String × Payload) :=
  Hardware.DongleJob.messages visit.entry.job visit.result visit.polled

namespace DongleLog

def queued (log : List DongleEvent) : List (Waiting DongleJob) :=
  log.flatMap DongleEvent.queued

def taken (log : List DongleEvent) : List (Waiting DongleJob) :=
  log.flatMap DongleEvent.taken

def visits (log : List DongleEvent) : List DongleVisit :=
  log.flatMap DongleEvent.visits

def raised (log : List DongleEvent) : List NetworkEvent :=
  log.flatMap DongleEvent.raisings

/-- The events that jobs polled, in the order in which the jobs ran. -/
def delivered (log : List DongleEvent) : List NetworkEvent :=
  (visits log).flatMap DongleVisit.polled

variable (log : List DongleEvent) (e : DongleEvent)

theorem queued_concat : queued (log ++ [e]) = queued log ++ e.queued := by
  simp [queued]

theorem taken_concat : taken (log ++ [e]) = taken log ++ e.taken := by
  simp [taken]

theorem visits_concat : visits (log ++ [e]) = visits log ++ e.visits := by
  simp [visits]

theorem raised_concat : raised (log ++ [e]) = raised log ++ e.raisings := by
  simp [raised]

theorem delivered_concat :
    delivered (log ++ [e]) = delivered log ++ e.visits.flatMap DongleVisit.polled := by
  rw [delivered, visits_concat, List.flatMap_append, delivered]

end DongleLog

structure DongleRun (R D : Type) where
  hardware : Hardware R D
  members : List ZigBee := []
  log : List DongleEvent := []

namespace DongleRun

variable {R D : Type} [Dongle D] (view : EventView D)

/-- What a job is about to do to the dongle. -/
def visit (dongle : D) (entry : Waiting DongleJob) : DongleVisit where
  entry
  result := (Hardware.attend dongle entry.job.command).1
  raised := view.raised dongle (Hardware.attend dongle entry.job.command).2
  polled := (Dongle.pollEvents (Hardware.attend dongle entry.job.command).2).1

/-- What the worker is about to do. -/
def nextTake (h : Hardware R D) : DongleEvent :=
  match h.dongleQueue.take?, h.dongleQueue.waiting with
  | some (some job, _), entry :: _ => .ran (visit view h.dongle ⟨entry.lease, job⟩)
  | some (none, _), entry :: _ => .skipped entry
  | _, _ => .idle

def step (r : DongleRun R D) : DongleStep → DongleRun R D
  | .join connection config =>
    let (member, hardware) := ZigBee.start config connection r.hardware
    { hardware, members := r.members ++ [member], log := r.log ++ [.joined member.lease] }
  | .request n p =>
    match r.members[n]? with
    | none => r
    | some member =>
      let (reply, member, hardware) := member.process p r.hardware
      let queued := hardware.dongleQueue.waiting.drop r.hardware.dongleQueue.waiting.length
      { hardware, members := r.members.set n member, log := r.log ++ [.replied reply queued] }
  | .close n =>
    match r.members[n]? with
    | none => r
    | some member =>
      { r with hardware := member.close r.hardware, log := r.log ++ [.closed member.lease] }
  | .work =>
    { r with hardware := r.hardware.stepDongle, log := r.log ++ [nextTake view r.hardware] }
  | .raise events =>
    { r with
      hardware := { r.hardware with dongle := view.raise r.hardware.dongle events }
      log := r.log ++ [.raised events] }

def after (radio : R) (dongle : D) (hasRadio : Bool) (steps : List DongleStep) : DongleRun R D :=
  steps.foldl (step view) { hardware := .attach radio dongle hasRadio true }

theorem after_concat (radio : R) (dongle : D) (hasRadio : Bool) (steps : List DongleStep)
    (s : DongleStep) :
    after view radio dongle hasRadio (steps ++ [s]) =
      (after view radio dongle hasRadio steps).step view s := by
  simp [after]

variable {view} {r : DongleRun R D} {n : Nat} {member : ZigBee}

theorem step_request (p : Payload) (found : r.members[n]? = some member) :
    r.step view (.request n p) =
      let (reply, next, hardware) := member.process p r.hardware
      let queued := hardware.dongleQueue.waiting.drop r.hardware.dongleQueue.waiting.length
      { hardware, members := r.members.set n next, log := r.log ++ [.replied reply queued] } := by
  rw [step, found]

theorem step_close (found : r.members[n]? = some member) :
    r.step view (.close n) =
      { r with hardware := member.close r.hardware, log := r.log ++ [.closed member.lease] } := by
  rw [step, found]

theorem step_work_of_cons {entry : Waiting DongleJob} {rest : List (Waiting DongleJob)}
    (running : r.hardware.dongleQueue.worker = .running)
    (waiting : r.hardware.dongleQueue.waiting = entry :: rest) :
    r.step view .work =
      if r.hardware.dongleQueue.isCancelled entry.lease then
        { r with hardware := r.hardware.takingDongle rest, log := r.log ++ [.skipped entry] }
      else
        { r with
          hardware := (r.hardware.takingDongle rest).runDongle entry.job
          log := r.log ++ [.ran (visit view r.hardware.dongle entry)] } := by
  rw [step, nextTake, JobQueue.take?_of_cons running waiting, waiting,
    Hardware.stepDongle_of_cons running waiting]
  cases r.hardware.dongleQueue.isCancelled entry.lease <;> rfl

variable (view) in
/-- What the worker can do to the hardware, and the event that it is. -/
inductive Worked (h : Hardware R D) : DongleEvent → Hardware R D → Prop
  | idle : (h.dongleQueue.worker = .running → h.dongleQueue.waiting = []) → Worked h .idle h
  | skipped {entry : Waiting DongleJob} {rest : List (Waiting DongleJob)} :
    h.dongleQueue.worker = .running → h.dongleQueue.waiting = entry :: rest →
    h.dongleQueue.isCancelled entry.lease = true → Worked h (.skipped entry) (h.takingDongle rest)
  | ran {entry : Waiting DongleJob} {rest : List (Waiting DongleJob)} :
    h.dongleQueue.worker = .running → h.dongleQueue.waiting = entry :: rest →
    ¬h.dongleQueue.isCancelled entry.lease = true →
      Worked h (.ran (visit view h.dongle entry)) ((h.takingDongle rest).runDongle entry.job)

variable (view) in
theorem worked (h : Hardware R D) : Worked view h (nextTake view h) h.stepDongle := by
  by_cases running : h.dongleQueue.worker = .running
  · cases waiting : h.dongleQueue.waiting with
    | nil =>
        rw [nextTake, JobQueue.take?_of_nil waiting, Hardware.stepDongle_of_nil waiting]
        exact .idle fun _ => waiting
    | cons entry rest =>
        rw [nextTake, JobQueue.take?_of_cons running waiting, waiting,
          Hardware.stepDongle_of_cons running waiting]
        cases cancelled : h.dongleQueue.isCancelled entry.lease with
        | true => exact .skipped running waiting cancelled
        | false => exact .ran running waiting (Bool.eq_false_iff.mp cancelled)
  · rw [nextTake, JobQueue.take?_of_stopped running, Hardware.stepDongle_of_stopped running]
    exact .idle fun runs => absurd runs running

end DongleRun

/-- How a run stands to its log. -/
structure Draining {R D : Type} [Dongle D] (view : EventView D) (dongle : D) (r : DongleRun R D) :
    Prop where
  running : r.hardware.dongleQueue.worker = .running
  leases : (r.members.map ZigBee.lease).Nodup
  leases_lt : ∀ lease ∈ r.members.map ZigBee.lease, lease < r.hardware.dongleQueue.nextLease
  cancelled_iff : ∀ lease, r.hardware.dongleQueue.isCancelled lease = true ↔ .closed lease ∈ r.log
  owned : ∀ entry ∈ DongleLog.queued r.log,
    (entry.lease, entry.job.connection) ∈ r.members.map ZigBee.owner
  fifo : DongleLog.queued r.log = DongleLog.taken r.log ++ r.hardware.dongleQueue.waiting
  follows : ∀ n (e : DongleEvent), r.log[n]? = some e → e.Follows (r.log.take n)
  outbox_eq : r.hardware.outbox = (DongleLog.visits r.log).flatMap DongleVisit.messages
  conserved : DongleLog.delivered r.log ++ view.held r.hardware.dongle =
    view.held dongle ++ DongleLog.raised r.log

namespace Draining

variable {R D : Type} [Dongle D] {view : EventView D} {dongle : D} {r : DongleRun R D}

theorem start (view : EventView D) (radio : R) (dongle : D) (hasRadio : Bool) :
    Draining view dongle { hardware := Hardware.attach radio dongle hasRadio true } where
  running := rfl
  leases := List.nodup_nil
  leases_lt := by simp
  cancelled_iff lease := by simp [Hardware.attach, JobQueue.spawn, JobQueue.isCancelled]
  owned := nofun
  fifo := rfl
  follows := by simp
  outbox_eq := rfl
  conserved := (List.append_nil (view.held dongle)).symm

theorem ready_iff (h : Draining view dongle r) (member : ZigBee) :
    member.ready r.hardware = true ↔ .closed member.lease ∉ r.log := by
  have available : r.hardware.dongleQueue.isAvailable = true := by
    rw [JobQueue.isAvailable, h.running]
    rfl
  rw [ZigBee.ready, JobQueue.leaseAvailable, available, Bool.and_true, Bool.not_eq_true',
    ← Bool.not_eq_true, h.cancelled_iff]

/-- A step in which no job runs. -/
theorem quiet (h : Draining view dongle r) {r' : DongleRun R D} {e : DongleEvent}
    (log : r'.log = r.log ++ [e]) (silent : e.visits = []) (follows : e.Follows r.log)
    (running : r'.hardware.dongleQueue.worker = .running)
    (leases : (r'.members.map ZigBee.lease).Nodup)
    (leases_lt : ∀ lease ∈ r'.members.map ZigBee.lease, lease < r'.hardware.dongleQueue.nextLease)
    (cancelled_iff : ∀ lease, r'.hardware.dongleQueue.isCancelled lease = true ↔
      r.hardware.dongleQueue.isCancelled lease = true ∨ .closed lease = e)
    (members : ∀ owner ∈ r.members.map ZigBee.owner, owner ∈ r'.members.map ZigBee.owner)
    (owned : ∀ entry ∈ e.queued, (entry.lease, entry.job.connection) ∈ r'.members.map ZigBee.owner)
    (fifo : r.hardware.dongleQueue.waiting ++ e.queued =
      e.taken ++ r'.hardware.dongleQueue.waiting)
    (outbox_eq : r'.hardware.outbox = r.hardware.outbox)
    (held : view.held r'.hardware.dongle = view.held r.hardware.dongle ++ e.raisings) :
    Draining view dongle r' := by
  have visits : DongleLog.visits r'.log = DongleLog.visits r.log := by
    rw [log, DongleLog.visits_concat, silent, List.append_nil]
  refine ⟨running, leases, leases_lt, ?_, ?_, ?_, ?_, ?_, ?_⟩
  · intro lease
    rw [cancelled_iff, log, List.mem_append, List.mem_singleton, h.cancelled_iff]
  · intro entry mem
    rw [log, DongleLog.queued_concat, List.mem_append] at mem
    rcases mem with old | new
    · exact members _ (h.owned entry old)
    · exact owned entry new
  · rw [log, DongleLog.queued_concat, DongleLog.taken_concat, h.fifo, List.append_assoc, fifo,
      List.append_assoc]
  · rw [log]
    exact follows_concat h.follows follows
  · rw [visits, outbox_eq, h.outbox_eq]
  · rw [DongleLog.delivered, visits, held, log, DongleLog.raised_concat, ← List.append_assoc,
      ← List.append_assoc, ← h.conserved]
    rfl

theorem join (h : Draining view dongle r) (connection : String) (config : ZigBeeConfig) :
    Draining view dongle (r.step view (.join connection config)) := by
  have members : (r.step view (.join connection config)).members.map ZigBee.lease =
      r.members.map ZigBee.lease ++ [r.hardware.dongleQueue.nextLease] := List.map_append
  refine h.quiet rfl rfl trivial h.running ?_ ?_ ?_ ?_ nofun (List.append_nil _) rfl
    (List.append_nil _).symm
  · rw [members]
    exact nodup_concat_of_lt h.leases h.leases_lt
  · intro lease mem
    rw [members, List.mem_append, List.mem_singleton] at mem
    rcases mem with old | rfl
    · exact Nat.lt_succ_of_lt (h.leases_lt lease old)
    · exact Nat.lt_succ_self _
  · intro lease
    simp only [reduceCtorEq, or_false]
    rfl
  · intro owner mem
    rw [DongleRun.step, List.map_append]
    exact List.mem_append_left _ mem

theorem request (h : Draining view dongle r) (n : Nat) (p : Payload) :
    Draining view dongle (r.step view (.request n p)) := by
  cases found : r.members[n]? with
  | none =>
      rw [DongleRun.step, found]
      exact h
  | some member =>
      have turn := zigBeeTurn_process member p r.hardware
      obtain ⟨jobs, _, own, queue⟩ := turn.dongleQueue_eq
      have owners : (r.members.set n (member.process p r.hardware).2.1).map ZigBee.owner =
          r.members.map ZigBee.owner := map_set_same found turn.owner_eq
      have leases : (r.members.set n (member.process p r.hardware).2.1).map ZigBee.lease =
          r.members.map ZigBee.lease := map_set_same found (congrArg Prod.fst turn.owner_eq)
      have queued : (member.process p r.hardware).2.2.dongleQueue.waiting.drop
          r.hardware.dongleQueue.waiting.length = jobs := by
        rw [queue, List.drop_left]
      rw [DongleRun.step_request p found]
      refine h.quiet rfl rfl trivial ?_ ?_ ?_ ?_ ?_ ?_ ?_ turn.outbox_eq ?_
      · rw [queue]
        exact h.running
      · exact leases ▸ h.leases
      · intro lease mem
        rw [leases] at mem
        rw [queue]
        exact h.leases_lt lease mem
      · intro lease
        rw [queue]
        simp only [reduceCtorEq, or_false]
        rfl
      · intro owner mem
        rwa [owners]
      · intro entry mem
        rw [DongleEvent.queued, queued] at mem
        rw [owners, own entry mem]
        exact List.mem_map.mpr ⟨member, List.mem_of_getElem? found, rfl⟩
      · rw [DongleEvent.queued, queued, queue]
        rfl
      · rw [turn.dongle_eq]
        exact (List.append_nil _).symm

theorem close (h : Draining view dongle r) (n : Nat) :
    Draining view dongle (r.step view (.close n)) := by
  cases found : r.members[n]? with
  | none =>
      rw [DongleRun.step, found]
      exact h
  | some member =>
      have queue : (member.close r.hardware).dongleQueue = r.hardware.dongleQueue.cancel member.lease :=
        rfl
      rw [DongleRun.step_close found]
      refine h.quiet rfl rfl trivial ?_ h.leases ?_ ?_ (fun _ mem => mem) nofun ?_ rfl
        (List.append_nil _).symm
      · rw [queue, JobQueue.cancel_worker, h.running]
      · intro lease mem
        rw [queue, JobQueue.cancel_nextLease]
        exact h.leases_lt lease mem
      · intro lease
        rw [queue, JobQueue.isCancelled_cancel, Bool.or_eq_true, beq_iff_eq, DongleEvent.closed.injEq,
          @eq_comm Nat lease]
      · rw [queue, JobQueue.cancel_waiting]
        exact List.append_nil _

theorem raise (lawful : view.Lawful) (h : Draining view dongle r) (events : List NetworkEvent) :
    Draining view dongle (r.step view (.raise events)) := by
  refine h.quiet rfl rfl trivial h.running h.leases h.leases_lt ?_ (fun _ mem => mem) nofun
    (List.append_nil _) rfl (lawful.raise _ events)
  intro lease
  simp only [reduceCtorEq, or_false]
  rfl

/-- What a job finds and what is raised while it runs is what it polls. -/
theorem polled_eq (lawful : view.Lawful) (found : D) (entry : Waiting DongleJob) :
    (DongleRun.visit view found entry).polled =
      view.held found ++ (DongleRun.visit view found entry).raised := by
  rw [DongleRun.visit, lawful.polled]
  exact (EventView.held_append_raised (lawful.attend found entry.job.command)).symm

theorem ran (lawful : view.Lawful) (h : Draining view dongle r) {entry : Waiting DongleJob}
    {rest : List (Waiting DongleJob)} (waiting : r.hardware.dongleQueue.waiting = entry :: rest)
    (live : DongleEvent.closed entry.lease ∉ r.log) :
    Draining view dongle
      { r with
        hardware := (r.hardware.takingDongle rest).runDongle entry.job
        log := r.log ++ [.ran (DongleRun.visit view r.hardware.dongle entry)] } := by
  rw [Hardware.runDongle_eq]
  refine ⟨h.running, h.leases, h.leases_lt, ?_, ?_, ?_, follows_concat h.follows live, ?_, ?_⟩
  · intro lease
    simp only [List.mem_append, List.mem_singleton, reduceCtorEq, or_false]
    exact h.cancelled_iff lease
  · intro queued mem
    exact h.owned queued (by simpa [DongleLog.queued_concat, DongleEvent.queued] using mem)
  · rw [DongleLog.queued_concat, DongleLog.taken_concat, h.fifo, waiting]
    simp [DongleEvent.queued, DongleEvent.taken, Hardware.takingDongle, DongleRun.visit]
  · rw [DongleLog.visits_concat, List.flatMap_append, ← h.outbox_eq, DongleEvent.visits,
      List.flatMap_singleton]
    rfl
  · have emptied := lawful.emptied (Hardware.attend r.hardware.dongle entry.job.command).2
    change _ ++ view.held (Dongle.pollEvents (Hardware.attend r.hardware.dongle entry.job.command).2).2 = _
    rw [emptied, List.append_nil, DongleLog.delivered_concat, DongleLog.raised_concat, DongleEvent.visits,
      List.flatMap_singleton, polled_eq lawful, DongleEvent.raisings, ← List.append_assoc, h.conserved,
      List.append_assoc]

theorem work (lawful : view.Lawful) (h : Draining view dongle r) :
    Draining view dongle (r.step view .work) := by
  have worked := DongleRun.worked view r.hardware
  rw [DongleRun.step]
  generalize DongleRun.nextTake view r.hardware = e, r.hardware.stepDongle = next at worked
  cases worked with
  | idle =>
      refine h.quiet rfl rfl trivial h.running h.leases h.leases_lt ?_ (fun _ mem => mem) nofun
        (List.append_nil _) rfl (List.append_nil _).symm
      simp only [reduceCtorEq, or_false, implies_true]
  | @skipped entry rest _ waiting cancelled =>
      have closed := (h.cancelled_iff entry.lease).mp cancelled
      refine h.quiet rfl rfl closed h.running h.leases h.leases_lt ?_ (fun _ mem => mem) nofun ?_ rfl
        (List.append_nil _).symm
      · intro lease
        simp only [reduceCtorEq, or_false]
        rfl
      · rw [waiting]
        exact List.append_nil _
  | @ran entry _ _ waiting live =>
      exact h.ran lawful waiting fun closed => live ((h.cancelled_iff entry.lease).mpr closed)

theorem step (lawful : view.Lawful) (h : Draining view dongle r) (s : DongleStep) :
    Draining view dongle (r.step view s) := by
  cases s with
  | join connection config => exact h.join connection config
  | request n p => exact h.request n p
  | close n => exact h.close n
  | work => exact h.work lawful
  | raise events => exact h.raise lawful events

theorem after (lawful : view.Lawful) (radio : R) (dongle : D) (hasRadio : Bool)
    (steps : List DongleStep) :
    Draining view dongle (DongleRun.after view radio dongle hasRadio steps) := by
  induction steps using List.reverseRecOn with
  | nil => exact start view radio dongle hasRadio
  | append_singleton steps s ih =>
      rw [DongleRun.after_concat]
      exact ih.step lawful s

end Draining

/-- What every run of a dongle keeps to. -/
structure EventLaw {R D : Type} [Dongle D] (view : EventView D) (dongle : D) (r : DongleRun R D) :
    Prop where
  leases : (r.members.map ZigBee.lease).Nodup
  /-- The dongle is ready for a connection until that connection closes. -/
  ready_iff : ∀ member ∈ r.members, member.ready r.hardware = true ↔ .closed member.lease ∉ r.log
  /-- Every job stands under the lease of a connection and reports to it. -/
  owned : ∀ entry ∈ DongleLog.queued r.log,
    ∃ member ∈ r.members, member.lease = entry.lease ∧ member.connection = entry.job.connection
  /-- All that was queued has been taken or waits, in the order of submission. -/
  fifo : DongleLog.queued r.log = DongleLog.taken r.log ++ r.hardware.dongleQueue.waiting
  /-- What was taken has run unless its connection was closed before. -/
  ran : ∀ n visit, r.log[n]? = some (.ran visit) → .closed visit.entry.lease ∉ r.log.take n
  skipped : ∀ n entry, r.log[n]? = some (.skipped entry) → .closed entry.lease ∈ r.log.take n
  /-- The outboxes hold for each job that ran its result and then the events that it polled. -/
  outbox_eq : r.hardware.outbox = (DongleLog.visits r.log).flatMap fun visit =>
    (visit.entry.job.connection, Hardware.DongleJob.report visit.entry.job visit.result) ::
      visit.polled.map fun event =>
        (visit.entry.job.connection, Hardware.DongleJob.eventReport visit.entry.job event)
  /-- What was delivered and what the dongle still holds is what it raised, each event once. -/
  conserved : DongleLog.delivered r.log ++ view.held r.hardware.dongle =
    view.held dongle ++ DongleLog.raised r.log
  /-- The first job that waits gives its command, looks the network up, polls once and reports, whatever
  came of the command, unless its connection is closed. -/
  works : ∀ entry rest, r.hardware.dongleQueue.waiting = entry :: rest →
    .closed entry.lease ∉ r.log →
      let attended := Hardware.attend r.hardware.dongle entry.job.command
      let polled := Dongle.pollEvents attended.2
      let next := r.step view .work
      next.log = r.log ++
          [.ran ⟨entry, attended.1, view.raised r.hardware.dongle attended.2, polled.1⟩] ∧
        next.hardware.dongle = polled.2 ∧
        next.hardware.outbox =
          r.hardware.outbox ++ Hardware.DongleJob.messages entry.job attended.1 polled.1 ∧
        next.hardware.dongleQueue.waiting = rest
  /-- A job of a closed connection is dropped and nothing else happens. -/
  skips : ∀ entry rest, r.hardware.dongleQueue.waiting = entry :: rest →
    .closed entry.lease ∈ r.log →
      let next := r.step view .work
      next.log = r.log ++ [.skipped entry] ∧ next.hardware.dongle = r.hardware.dongle ∧
        next.hardware.outbox = r.hardware.outbox ∧ next.hardware.dongleQueue.waiting = rest

theorem event_law {R D : Type} [Dongle D] {view : EventView D} (lawful : view.Lawful) (radio : R)
    (dongle : D) (hasRadio : Bool) (steps : List DongleStep) :
    EventLaw view dongle (DongleRun.after view radio dongle hasRadio steps) := by
  have draining := Draining.after lawful radio dongle hasRadio steps
  generalize DongleRun.after view radio dongle hasRadio steps = r at draining
  refine ⟨draining.leases, fun member _ => draining.ready_iff member, ?_, draining.fifo, ?_, ?_,
    draining.outbox_eq, draining.conserved, ?_, ?_⟩
  · intro entry mem
    obtain ⟨member, there, same⟩ := List.mem_map.mp (draining.owned entry mem)
    exact ⟨member, there, congrArg Prod.fst same, congrArg Prod.snd same⟩
  · intro n visit found
    exact draining.follows n _ found
  · intro n entry found
    exact draining.follows n _ found
  · intro entry rest first live
    have fresh : ¬r.hardware.dongleQueue.isCancelled entry.lease = true :=
      fun cancelled => live ((draining.cancelled_iff entry.lease).mp cancelled)
    rw [DongleRun.step_work_of_cons draining.running first, if_neg fresh, Hardware.runDongle_eq]
    exact ⟨rfl, rfl, rfl, rfl⟩
  · intro entry rest first closed
    rw [DongleRun.step_work_of_cons draining.running first,
      if_pos ((draining.cancelled_iff entry.lease).mpr closed)]
    exact ⟨rfl, rfl, rfl, rfl⟩

/-- Two connections queue a command each, the first closes before the worker takes either, and a device
joins by itself. -/
def closedBeforePoll : List DongleStep :=
  [.join "a" { devices := [⟨"bulb", "Bulb", true⟩] }, .join "b" {}, .request 0 (.request "ListDevices"),
    .request 1 (.request "ListDevices"), .close 0, .raise [.joined "plug"], .work, .work]

theorem simulated_events :
    SimulatedDongle.view.Lawful ∧
      EventLaw SimulatedDongle.view {}
        (DongleRun.after SimulatedDongle.view () {} false closedBeforePoll) ∧
      DongleLog.delivered (DongleRun.after SimulatedDongle.view () {} false closedBeforePoll).log =
        [.joined "plug"] :=
  ⟨SimulatedDongle.lawful_view, event_law SimulatedDongle.lawful_view () {} false closedBeforePoll,
    by decide⟩

end Switchboard
