import Switchboard.Proofs.Hardware.QueueRun

/-!
The number of jobs that a queue reports to wait. The counter is kept apart from the jobs: a submission counts
up before it hands its job over, and down again when nobody takes it; the worker counts down once it has
taken a job. Here calls are taken apart, and the parts of several may come in any order. The counter is exact
but for what is under way, until a job crashes: the jobs that wait then are lost and stay counted.
-/

namespace Switchboard

variable {σ J : Type}

/-- How far a call to submit has come. -/
inductive SubmitStage
  /-- The lease and the device are to be looked at. -/
  | checking
  /-- The job is to be counted. -/
  | counting
  /-- The job is counted and is to be handed over. -/
  | handing
  /-- Nobody took the job, and it is to be counted out again. -/
  | retracting
  | returned (outcome : Except Failure Unit)

/-- Tells whether the counter shows a job that is not in the queue. -/
def SubmitStage.counts : SubmitStage → Bool
  | handing => true
  | retracting => true
  | _ => false

structure SubmitCall (J : Type) where
  entry : Waiting J
  stage : SubmitStage := .checking

def SubmitCall.counts (call : SubmitCall J) : Bool :=
  call.stage.counts

/-- Where the worker is in its round. -/
inductive WorkerRound (J : Type)
  | free
  /-- A job is taken and not yet counted out. -/
  | took (entry : Waiting J)
  /-- The job is counted out and is to be run or skipped. -/
  | counted (entry : Waiting J)

namespace WorkerRound

/-- The job that the worker has. -/
def job? : WorkerRound J → Option (Waiting J)
  | free => none
  | took entry => some entry
  | counted entry => some entry

/-- The number of jobs that are taken and not yet counted out. -/
def uncounted : WorkerRound J → Nat
  | free => 0
  | took _ => 1
  | counted _ => 0

end WorkerRound

/-- A queue with the calls on it and what its worker is doing. -/
structure Traffic (σ J : Type) where
  queue : JobQueue J
  device : σ
  calls : List (SubmitCall J) := []
  round : WorkerRound J := .free
  /-- The jobs that waited when the worker ended. -/
  lost : List (Waiting J) := []
  log : List (QueueEvent J) := []

inductive TrafficStep (J : Type)
  | lease
  /-- A call to submit begins. -/
  | enter (lease : Nat) (job : J)
  /-- A call to submit does its next part. -/
  | advance (call : Nat)
  | cancel (lease : Nat)
  | drop (lease : Nat)
  /-- The worker does the next part of its round. -/
  | work

theorem JobQueue.cancel_queued (q : JobQueue J) (lease : Nat) : (q.cancel lease).queued = q.queued := by
  rw [cancel]
  split <;> rfl

/-- Putting a member in the place of another changes the count by what each of them counts. -/
theorem countP_set_add {α : Type} (p : α → Bool) {members : List α} {n : Nat} {member : α}
    (found : members[n]? = some member) (next : α) :
    (members.set n next).countP p + (p member).toNat = members.countP p + (p next).toNat := by
  induction members generalizing n with
  | nil => cases found
  | cons first rest ih =>
      cases n with
      | zero =>
          obtain rfl : first = member := Option.some.inj found
          rw [List.set_cons_zero, List.countP_cons, List.countP_cons]
          cases p first <;> cases p next <;> simp
      | succ n =>
          have later := ih found
          rw [List.set_cons_succ, List.countP_cons, List.countP_cons]
          omega

namespace Traffic

def start (name : String) (available : Bool) (device : σ) : Traffic σ J where
  queue := if available then .spawn name else .unavailable name
  device

def setStage (t : Traffic σ J) (n : Nat) (call : SubmitCall J) (stage : SubmitStage) :
    List (SubmitCall J) :=
  t.calls.set n { call with stage }

/-- Makes the next part of the call with a number. -/
def advance (t : Traffic σ J) (n : Nat) (call : SubmitCall J) : Traffic σ J :=
  let refuse (failure : Failure) : Traffic σ J :=
    { t with
      calls := t.setStage n call (.returned (.error failure))
      log := t.log ++ [.refused call.entry.lease failure] }
  match call.stage with
  | .checking =>
    if t.queue.isCancelled call.entry.lease then
      refuse (.transportClosed
        (t.queue.name ++ " lease " ++ toString call.entry.lease ++ " was cancelled"))
    else if t.queue.worker = .absent then refuse (.transportClosed t.queue.name)
    else { t with calls := t.setStage n call .counting }
  | .counting =>
    { t with
      queue := { t.queue with queued := t.queue.queued + 1 }
      calls := t.setStage n call .handing }
  | .handing =>
    if t.queue.isAvailable then
      { t with
        queue := { t.queue with waiting := t.queue.waiting ++ [call.entry] }
        calls := t.setStage n call (.returned (.ok ()))
        log := t.log ++ [.accepted call.entry] }
    else { t with calls := t.setStage n call .retracting }
  | .retracting =>
    { refuse (.transportClosed t.queue.name) with
      queue := { t.queue with queued := t.queue.queued - 1 } }
  | .returned _ => t

/-- Makes the next part of the worker's round; a job that gives no device back has crashed. -/
def work (run : σ → J → Option σ) (t : Traffic σ J) : Traffic σ J :=
  match t.round with
  | .free =>
    match t.queue.isAvailable, t.queue.waiting with
    | true, entry :: rest =>
      { t with queue := { t.queue with waiting := rest }, round := .took entry }
    | _, _ => t
  | .took entry =>
    { t with queue := { t.queue with queued := t.queue.queued - 1 }, round := .counted entry }
  | .counted entry =>
    if t.queue.isCancelled entry.lease then
      { t with round := .free, log := t.log ++ [.skipped entry] }
    else
      match run t.device entry.job with
      | some device => { t with device, round := .free, log := t.log ++ [.ran entry] }
      | none =>
        { t with
          queue := t.queue.crash
          round := .free
          lost := t.queue.waiting
          log := t.log ++ [.ran entry] }

def step (run : σ → J → Option σ) (t : Traffic σ J) : TrafficStep J → Traffic σ J
  | .lease => { t with queue := t.queue.lease.2 }
  | .enter lease job => { t with calls := t.calls ++ [{ entry := ⟨lease, job⟩ }] }
  | .advance n =>
    match t.calls[n]? with
    | none => t
    | some call => t.advance n call
  | .cancel lease => { t with queue := t.queue.cancel lease }
  | .drop lease => { t with queue := t.queue.cancel lease }
  | .work => t.work run

def after (run : σ → J → Option σ) (t : Traffic σ J) (steps : List (TrafficStep J)) : Traffic σ J :=
  steps.foldl (step run) t

theorem after_concat (run : σ → J → Option σ) (t : Traffic σ J) (steps : List (TrafficStep J))
    (s : TrafficStep J) : t.after run (steps ++ [s]) = (t.after run steps).step run s := by
  simp [after]

/-- No submission is counted and not handed over, and no job is taken and not counted out. -/
structure Quiet (t : Traffic σ J) : Prop where
  calls : ∀ call ∈ t.calls, call.counts = false
  round : t.round.uncounted = 0

/-- How a queue stands to what is under way on it. -/
structure Counted (t : Traffic σ J) : Prop where
  counter : t.queue.queued =
    t.queue.waiting.length + t.calls.countP SubmitCall.counts + t.round.uncounted + t.lost.length
  /-- Jobs come out of the queue as they came into it. -/
  fifo : acceptedJobs t.log = takenJobs t.log ++ t.round.job?.toList ++ t.queue.waiting ++ t.lost
  /-- Jobs are lost by a crash only. -/
  kept : t.queue.worker ≠ .ended → t.lost = []
  /-- Without a worker nothing waits and nothing is taken. -/
  stopped : t.queue.worker ≠ .running → t.queue.waiting = [] ∧ t.round = .free

section parts

variable {run : σ → J → Option σ} {t : Traffic σ J}

/-- Moving a call to another stage changes what the calls count by what that call counts. -/
theorem countP_setStage {n : Nat} {call : SubmitCall J} (found : t.calls[n]? = some call)
    (stage : SubmitStage) :
    (t.setStage n call stage).countP SubmitCall.counts + call.stage.counts.toNat =
      t.calls.countP SubmitCall.counts + stage.counts.toNat :=
  countP_set_add SubmitCall.counts found { call with stage }

namespace Counted

theorem start (name : String) (available : Bool) (device : σ) :
    Counted (Traffic.start (J := J) name available device) := by
  cases available with
  | true => exact ⟨rfl, rfl, fun _ => rfl, fun _ => ⟨rfl, rfl⟩⟩
  | false => exact ⟨rfl, rfl, fun _ => rfl, fun _ => ⟨rfl, rfl⟩⟩

/-- What neither moves a job nor counts one makes no difference. -/
theorem of_same (h : Counted t) {queue : JobQueue J} (waiting : queue.waiting = t.queue.waiting)
    (queued : queue.queued = t.queue.queued) (worker : queue.worker = t.queue.worker) :
    Counted { t with queue } := by
  refine ⟨?_, ?_, ?_, ?_⟩
  · rw [queued, waiting]
    exact h.counter
  · rw [waiting]
    exact h.fifo
  · rw [worker]
    exact h.kept
  · rw [worker, waiting]
    exact h.stopped

theorem cancel (h : Counted t) (lease : Nat) : Counted { t with queue := t.queue.cancel lease } :=
  h.of_same (t.queue.cancel_waiting lease) (t.queue.cancel_queued lease) (t.queue.cancel_worker lease)

/-- Moving a call between stages that count alike makes no difference. -/
theorem move (h : Counted t) {n : Nat} {call : SubmitCall J} (found : t.calls[n]? = some call)
    {stage : SubmitStage} (alike : stage.counts = call.stage.counts) :
    Counted { t with calls := t.setStage n call stage } := by
  have moved := countP_setStage found stage
  rw [alike] at moved
  refine ⟨?_, h.fifo, h.kept, h.stopped⟩
  have counter := h.counter
  dsimp only
  omega

theorem returned (h : Counted t) {n : Nat} {call : SubmitCall J} (found : t.calls[n]? = some call)
    (alike : false = call.stage.counts) (failure : Failure) :
    Counted { t with calls := t.setStage n call (.returned (.error failure)) } :=
  h.move found alike

/-- What is logged of a refusal concerns no job. -/
theorem note (h : Counted t) (lease : Nat) (failure : Failure) :
    Counted { t with log := t.log ++ [.refused lease failure] } := by
  refine ⟨h.counter, ?_, h.kept, h.stopped⟩
  simpa [acceptedJobs_concat, takenJobs_concat, QueueEvent.accepted?, QueueEvent.taken?] using h.fifo

theorem advance (h : Counted t) {n : Nat} {call : SubmitCall J} (found : t.calls[n]? = some call) :
    Counted (t.advance n call) := by
  have moved := countP_setStage found
  have counter := h.counter
  rw [Traffic.advance]
  cases stage : call.stage with
  | checking =>
      have alike : SubmitStage.counts .checking = call.stage.counts := by rw [stage]
      have refused (failure : Failure) := (h.returned found alike failure).note call.entry.lease failure
      dsimp only
      split
      case isTrue _ => exact refused _
      case isFalse _ =>
        split
        case isTrue _ => exact refused _
        case isFalse _ => exact h.move found alike
  | counting =>
      have more := moved .handing
      rw [stage] at more
      simp only [SubmitStage.counts, Bool.toNat_false, Bool.toNat_true] at more
      refine ⟨?_, h.fifo, h.kept, h.stopped⟩
      dsimp only
      omega
  | handing =>
      dsimp only
      split
      case isTrue running =>
        have fewer := moved (.returned (.ok ()))
        rw [stage] at fewer
        simp only [SubmitStage.counts, Bool.toNat_false, Bool.toNat_true] at fewer
        have here : t.queue.worker = .running := beq_iff_eq.mp running
        have nothing := h.kept (by rw [here]; decide)
        refine ⟨?_, ?_, h.kept, fun ended => absurd here ended⟩
        · dsimp only
          rw [List.length_append, List.length_singleton]
          omega
        · have fifo := h.fifo
          rw [nothing, List.append_nil] at fifo
          simp [acceptedJobs_concat, takenJobs_concat, QueueEvent.accepted?, QueueEvent.taken?, fifo,
            nothing]
      case isFalse _ => exact h.move found (by rw [stage]; rfl)
  | retracting =>
      have fewer := moved (.returned (.error (.transportClosed t.queue.name)))
      rw [stage] at fewer
      simp only [SubmitStage.counts, Bool.toNat_false, Bool.toNat_true] at fewer
      have noted := h.note call.entry.lease (.transportClosed t.queue.name)
      refine ⟨?_, noted.fifo, h.kept, h.stopped⟩
      dsimp only
      omega
  | returned _ => exact h

theorem running_of_busy (h : Counted t) (busy : t.round.job? ≠ none) : t.queue.worker = .running := by
  by_contra ended
  rw [(h.stopped ended).2] at busy
  exact busy rfl

theorem work (h : Counted t) : Counted (t.work run) := by
  have counter := h.counter
  have fifo := h.fifo
  rw [Traffic.work]
  cases round : t.round with
  | free =>
      dsimp only
      split
      · next entry rest running waiting =>
          rw [round, waiting, List.length_cons, WorkerRound.uncounted] at counter
          rw [round, waiting, WorkerRound.job?, Option.toList_none, List.append_nil] at fifo
          refine ⟨?_, ?_, h.kept, fun ended => absurd (beq_iff_eq.mp running) ended⟩
          · simp only [WorkerRound.uncounted]
            omega
          · simpa [WorkerRound.job?] using fifo
      · exact h
  | took entry =>
      have running := h.running_of_busy (by rw [round]; nofun)
      rw [round, WorkerRound.uncounted] at counter
      rw [round] at fifo
      refine ⟨?_, fifo, h.kept, fun ended => absurd running ended⟩
      simp only [WorkerRound.uncounted]
      omega
  | counted entry =>
      have running := h.running_of_busy (by rw [round]; nofun)
      have nothing := h.kept (by rw [running]; decide)
      rw [round, nothing, List.length_nil, WorkerRound.uncounted] at counter
      rw [round, nothing, WorkerRound.job?, Option.toList_some, List.append_nil] at fifo
      dsimp only
      split
      case isTrue _ =>
        refine ⟨?_, ?_, h.kept, fun ended => absurd running ended⟩
        · simp only [nothing, List.length_nil, WorkerRound.uncounted]
          omega
        · simp [acceptedJobs_concat, takenJobs_concat, QueueEvent.accepted?, QueueEvent.taken?,
            WorkerRound.job?, fifo, nothing]
      case isFalse _ =>
        split
        · refine ⟨?_, ?_, h.kept, fun ended => absurd running ended⟩
          · simp only [nothing, List.length_nil, WorkerRound.uncounted]
            omega
          · simp [acceptedJobs_concat, takenJobs_concat, QueueEvent.accepted?, QueueEvent.taken?,
              WorkerRound.job?, fifo, nothing]
        · -- The job has crashed: what waited is lost.
          refine ⟨?_, ?_, fun alive => absurd rfl alive, fun _ => ⟨rfl, rfl⟩⟩
          · simp only [JobQueue.crash, List.length_nil, WorkerRound.uncounted]
            omega
          · simp [acceptedJobs_concat, takenJobs_concat, QueueEvent.accepted?, QueueEvent.taken?,
              WorkerRound.job?, fifo, JobQueue.crash]

theorem step (h : Counted t) (run : σ → J → Option σ) (s : TrafficStep J) : Counted (t.step run s) := by
  cases s with
  | lease => exact h.of_same rfl rfl rfl
  | enter lease job =>
      refine ⟨?_, h.fifo, h.kept, h.stopped⟩
      simpa [Traffic.step, List.countP_append, SubmitCall.counts, SubmitStage.counts] using h.counter
  | advance n =>
      rw [Traffic.step]
      split
      · exact h
      · next call found => exact h.advance found
  | cancel lease => exact h.cancel lease
  | drop lease => exact h.cancel lease
  | work => exact h.work

theorem after (h : Counted t) (run : σ → J → Option σ) (steps : List (TrafficStep J)) :
    Counted (t.after run steps) := by
  induction steps using List.reverseRecOn with
  | nil => exact h
  | append_singleton steps s ih =>
      rw [after_concat]
      exact ih.step run s

end Counted

/-- Once the worker has ended, nothing brings it or what was lost back. -/
theorem Counted.step_of_ended (h : Counted t) (run : σ → J → Option σ)
    (ended : t.queue.worker = .ended) (s : TrafficStep J) :
    (t.step run s).queue.worker = .ended ∧ (t.step run s).lost = t.lost := by
  have free := (h.stopped (by rw [ended]; decide)).2
  have unavailable : t.queue.isAvailable = false := by
    rw [JobQueue.isAvailable, ended]
    rfl
  cases s with
  | lease => exact ⟨ended, rfl⟩
  | enter lease job => exact ⟨ended, rfl⟩
  | advance n =>
      rw [Traffic.step]
      split
      · exact ⟨ended, rfl⟩
      · rw [Traffic.advance]
        split
        · dsimp only
          split
          · exact ⟨ended, rfl⟩
          · split
            · exact ⟨ended, rfl⟩
            · exact ⟨ended, rfl⟩
        · exact ⟨ended, rfl⟩
        · rw [unavailable]
          exact ⟨ended, rfl⟩
        · exact ⟨ended, rfl⟩
        · exact ⟨ended, rfl⟩
  | cancel lease => exact ⟨(t.queue.cancel_worker lease).trans ended, rfl⟩
  | drop lease => exact ⟨(t.queue.cancel_worker lease).trans ended, rfl⟩
  | work =>
      rw [Traffic.step, Traffic.work, free, unavailable]
      exact ⟨ended, rfl⟩

theorem Counted.after_of_ended (h : Counted t) (run : σ → J → Option σ)
    (ended : t.queue.worker = .ended) (steps : List (TrafficStep J)) :
    (t.after run steps).queue.worker = .ended ∧ (t.after run steps).lost = t.lost := by
  induction steps using List.reverseRecOn with
  | nil => exact ⟨ended, rfl⟩
  | append_singleton steps s ih =>
      rw [after_concat]
      obtain ⟨worker, lost⟩ := (h.after run steps).step_of_ended run ih.1 s
      exact ⟨worker, lost.trans ih.2⟩

/-- The parts of a call to submit, one behind the other. -/
def submitting (t : Traffic σ J) (lease : Nat) (job : J) : List (TrafficStep J) :=
  .enter lease job :: List.replicate 4 (.advance t.calls.length)

/-- A call that is not interrupted does to the queue what submitting to it does. -/
theorem after_submitting (run : σ → J → Option σ) (t : Traffic σ J) (lease : Nat) (job : J) :
    (t.after run (t.submitting lease job)).queue = (t.queue.submit lease job).toOption.getD t.queue ∧
      (t.after run (t.submitting lease job)).calls =
        t.calls ++ [⟨⟨lease, job⟩, .returned ((t.queue.submit lease job).map fun _ => ())⟩] := by
  obtain ⟨⟨name, worker, nextLease, revoked, waiting, queued⟩, device, calls, round, lost, log⟩ := t
  by_cases cancelled : lease ∈ revoked
  · simp [after, submitting, step, advance, setStage, JobQueue.submit, JobQueue.isCancelled, cancelled,
      Except.toOption, Except.map]
  · cases worker <;>
      simp [after, submitting, step, advance, setStage, JobQueue.submit, JobQueue.isCancelled,
        JobQueue.isAvailable, cancelled, Except.toOption, Except.map]

/-- A round of the worker that is not interrupted does what letting it take one job does. -/
theorem after_round {t : Traffic σ J} (free : t.round = .free) (run : σ → J → Option σ) :
    ((t.after run (List.replicate 3 .work)).device, (t.after run (List.replicate 3 .work)).queue) =
        t.queue.work run t.device ∧
      (t.after run (List.replicate 3 .work)).round = .free := by
  have unfolded : t.after run (List.replicate 3 .work) = ((t.work run).work run).work run := rfl
  rw [unfolded, JobQueue.work]
  by_cases running : t.queue.isAvailable = true
  · cases waiting : t.queue.waiting with
    | nil =>
        have idle : t.work run = t := by
          rw [work, free, waiting]
          cases t.queue.isAvailable <;> rfl
        rw [idle, idle, idle, JobQueue.take?_of_nil waiting]
        exact ⟨rfl, free⟩
    | cons entry rest =>
        rw [JobQueue.take?_of_cons (beq_iff_eq.mp running) waiting]
        have took : t.work run =
            { t with queue := { t.queue with waiting := rest }, round := .took entry } := by
          rw [work, free, running, waiting]
        have counted : (t.work run).work run =
            { t with
              queue := { t.queue with waiting := rest, queued := t.queue.queued - 1 }
              round := .counted entry } := by
          rw [took]
          rfl
        rw [counted, work]
        by_cases cancelled : entry.lease ∈ t.queue.cancelled
        · simp [JobQueue.isCancelled, cancelled]
        · simp only [JobQueue.isCancelled, List.contains_eq_mem, cancelled, decide_false,
            Bool.false_eq_true, if_false]
          cases run t.device entry.job with
          | none => exact ⟨rfl, rfl⟩
          | some device => exact ⟨rfl, rfl⟩
  · have idle : t.work run = t := by
      rw [work, free, Bool.eq_false_iff.mpr running]
    rw [idle, idle, idle, JobQueue.take?_of_stopped fun alive => running (beq_iff_eq.mpr alive)]
    exact ⟨rfl, free⟩

theorem Counted.positive (h : Counted t)
    (due : (∃ call ∈ t.calls, call.stage = .retracting) ∨ ∃ entry, t.round = .took entry) :
    0 < t.queue.queued := by
  have counter := h.counter
  rcases due with ⟨call, there, stage⟩ | ⟨entry, round⟩
  · have counts : call.counts = true := by
      rw [SubmitCall.counts, stage]
      rfl
    have some := List.countP_pos_iff.mpr ⟨call, there, counts⟩
    omega
  · rw [round, WorkerRound.uncounted] at counter
    omega

theorem Counted.queued_of_quiet (h : Counted t) (quiet : t.Quiet) :
    t.queue.queued = t.queue.waiting.length + t.lost.length := by
  have none : t.calls.countP SubmitCall.counts = 0 :=
    List.countP_eq_zero.mpr fun call there => Bool.eq_false_iff.mp (quiet.calls call there)
  have counter := h.counter
  rw [none, quiet.round] at counter
  exact counter

end parts

end Traffic

/-- What the counter of a queue shows, however the calls on it and the rounds of its worker overlap. -/
structure CounterLaw (run : σ → J → Option σ) (t : Traffic σ J) : Prop where
  /-- It shows the jobs that wait, those of calls that have counted them and not handed them over, the one
  that is taken and not counted out, and those that were lost. -/
  counter : t.queue.queued =
    t.queue.waiting.length + t.calls.countP SubmitCall.counts + t.round.uncounted + t.lost.length
  /-- Nothing is counted out that was not counted. -/
  positive : (∃ call ∈ t.calls, call.stage = .retracting) ∨ (∃ entry, t.round = .took entry) →
    0 < t.queue.queued
  /-- An accepted job was run or skipped, or the worker has it, or it waits, or it is lost. -/
  fifo : acceptedJobs t.log = takenJobs t.log ++ t.round.job?.toList ++ t.queue.waiting ++ t.lost
  kept : t.queue.worker ≠ .ended → t.lost = []
  /-- A job that crashes ends the worker, and what waits is lost. -/
  crashed : ∀ entry, t.round = .counted entry → t.queue.isCancelled entry.lease = false →
    run t.device entry.job = none →
      (t.step run .work).queue.worker = .ended ∧ (t.step run .work).queue.waiting = [] ∧
        (t.step run .work).lost = t.queue.waiting
  /-- While nothing is under way, the counter is right exactly when nothing was lost. -/
  exact_iff : t.Quiet → (t.queue.queued = t.queue.waiting.length ↔ t.lost = [])
  /-- When the worker has ended, what was lost is counted for ever. -/
  stale : t.queue.worker = .ended → ∀ more, (t.after run more).queue.worker = .ended ∧
    (t.after run more).queue.waiting = [] ∧
      ((t.after run more).Quiet → (t.after run more).queue.queued = t.lost.length)
  /-- A call to submit that is not interrupted does what submitting does, so that a refused one leaves the
  counter as it was. -/
  submitted : ∀ lease job,
    (t.after run (t.submitting lease job)).queue = (t.queue.submit lease job).toOption.getD t.queue ∧
      (t.after run (t.submitting lease job)).calls =
        t.calls ++ [⟨⟨lease, job⟩, .returned ((t.queue.submit lease job).map fun _ => ())⟩]
  /-- A round of the worker that is not interrupted takes one job, and runs or skips it. -/
  worked : t.round = .free →
    ((t.after run (List.replicate 3 .work)).device, (t.after run (List.replicate 3 .work)).queue) =
        t.queue.work run t.device ∧
      (t.after run (List.replicate 3 .work)).round = .free

theorem counter_law (run : σ → J → Option σ) (name : String) (available : Bool) (device : σ)
    (steps : List (TrafficStep J)) :
    CounterLaw run ((Traffic.start name available device).after run steps) := by
  have held := (Traffic.Counted.start (J := J) name available device).after run steps
  generalize (Traffic.start name available device).after run steps = t at held
  refine ⟨held.counter, held.positive, held.fifo, held.kept, ?_, ?_, ?_, Traffic.after_submitting run t,
    fun free => Traffic.after_round free run⟩
  · intro entry round runs crashes
    rw [Traffic.step, Traffic.work, round]
    simp only [runs, crashes, Bool.false_eq_true, if_false]
    exact ⟨rfl, rfl, trivial⟩
  · intro quiet
    rw [held.queued_of_quiet quiet, Nat.add_eq_left, List.length_eq_zero_iff]
  · intro ended more
    obtain ⟨worker, lost⟩ := held.after_of_ended run ended more
    have later := held.after run more
    have nothing := (later.stopped (by rw [worker]; decide)).1
    refine ⟨worker, nothing, fun quiet => ?_⟩
    rw [later.queued_of_quiet quiet, nothing, lost, List.length_nil, Nat.zero_add]

section crash

/-- Runs a job, which crashes if it says so. -/
def runUnlessBroken (_ : Unit) (broken : Bool) : Option Unit :=
  if broken then none else some ()

/-- A job that crashes and one that waits behind it. -/
def brokenFirst : Traffic Unit Bool :=
  let opened : Traffic Unit Bool := Traffic.start "bus" true ()
  let first := opened.after runUnlessBroken (opened.submitting 1 true)
  let both := first.after runUnlessBroken (first.submitting 1 false)
  both.after runUnlessBroken (List.replicate 3 .work)

/-- The worker has ended, nothing waits and nothing is under way, and still a job is counted. -/
theorem lost_job_counted :
    brokenFirst.queue.worker = .ended ∧ brokenFirst.queue.waiting = [] ∧ brokenFirst.Quiet ∧
      brokenFirst.queue.queued = 1 := by
  refine ⟨rfl, rfl, ⟨?_, rfl⟩, rfl⟩
  decide

end crash

end Switchboard
