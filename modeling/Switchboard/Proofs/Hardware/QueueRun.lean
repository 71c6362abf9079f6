import Mathlib.Data.List.Induction
import Switchboard.Hardware.Queue

/-!
Runs of a queue. A schedule interleaves the calls on leases with the steps of the worker, each of which
takes one job. What a step did is an event; the main statements say which jobs run, in which order, and
that a lease can be taken out of a run without a trace in the events of the others.
-/

namespace Switchboard

/-- One call on a lease, or one step of the worker. -/
inductive QueueStep (J : Type)
  | lease
  | submit (lease : Nat) (job : J)
  | cancel (lease : Nat)
  | drop (lease : Nat)
  | work

/-- What a step did. -/
inductive QueueEvent (J : Type)
  | leased (lease : Nat)
  | accepted (entry : Waiting J)
  | refused (lease : Nat) (failure : Failure)
  | revoked (lease : Nat)
  | ran (entry : Waiting J)
  /-- The worker took a job of a lease that was cancelled or dropped before. -/
  | skipped (entry : Waiting J)
  | idle

/-- A queue and the device behind it. -/
structure Bench (σ J : Type) where
  queue : JobQueue J
  device : σ

variable {J : Type}

namespace QueueStep

/-- The lease that a call is made on. -/
def lease? : QueueStep J → Option Nat
  | submit owner _ => some owner
  | cancel owner => some owner
  | drop owner => some owner
  | _ => none

def isCall : QueueStep J → Bool
  | work => false
  | _ => true

def revokes (lease : Nat) : QueueStep J → Bool
  | cancel other => other == lease
  | drop other => other == lease
  | _ => false

theorem lease?_of_revokes {s : QueueStep J} {lease : Nat} (revokes : s.revokes lease = true) :
    s.lease? = some lease := by
  cases s with
  | cancel other | drop other => exact congrArg some (beq_iff_eq.mp revokes)
  | _ => cases revokes

end QueueStep

def revokedIn (steps : List (QueueStep J)) (lease : Nat) : Bool :=
  steps.any (QueueStep.revokes lease)

theorem revokedIn_concat (steps : List (QueueStep J)) (s : QueueStep J) (lease : Nat) :
    revokedIn (steps ++ [s]) lease = (revokedIn steps lease || s.revokes lease) := by
  simp [revokedIn]

namespace QueueEvent

/-- The lease that an event concerns; handing out a lease and waiting for a job concern none. -/
def lease? : QueueEvent J → Option Nat
  | leased _ => none
  | accepted entry => some entry.lease
  | refused lease _ => some lease
  | revoked lease => some lease
  | ran entry => some entry.lease
  | skipped entry => some entry.lease
  | idle => none

def leased? : QueueEvent J → Option Nat
  | leased lease => some lease
  | _ => none

def accepted? : QueueEvent J → Option (Waiting J)
  | accepted entry => some entry
  | _ => none

/-- The job that was taken from the queue, to be run or to be skipped. -/
def taken? : QueueEvent J → Option (Waiting J)
  | ran entry => some entry
  | skipped entry => some entry
  | _ => none

def ran? : QueueEvent J → Option (Waiting J)
  | ran entry => some entry
  | _ => none

end QueueEvent

namespace Bench

variable {σ J : Type}

def start (name : String) (device : σ) : Bench σ J :=
  ⟨.spawn name, device⟩

/-- What the worker is about to do. -/
def nextTake (b : Bench σ J) : QueueEvent J :=
  match b.queue.take?, b.queue.waiting with
  | some (some job, _), entry :: _ => .ran ⟨entry.lease, job⟩
  | some (none, _), entry :: _ => .skipped entry
  | _, _ => .idle

/-- Makes one step; jobs do not crash. -/
def step (run : σ → J → σ) (b : Bench σ J) : QueueStep J → QueueEvent J × Bench σ J
  | .lease =>
    let (lease, queue) := b.queue.lease
    (.leased lease, { b with queue })
  | .submit lease job =>
    match b.queue.submit lease job with
    | .ok queue => (.accepted ⟨lease, job⟩, { b with queue })
    | .error failure => (.refused lease failure, b)
  | .cancel lease => (.revoked lease, { b with queue := b.queue.cancel lease })
  | .drop lease => (.revoked lease, { b with queue := b.queue.cancel lease })
  | .work =>
    let (device, queue) := b.queue.work (fun device job => some (run device job)) b.device
    (b.nextTake, { queue, device })

def after (run : σ → J → σ) (b : Bench σ J) (steps : List (QueueStep J)) : Bench σ J :=
  steps.foldl (fun b s => (b.step run s).2) b

def trace (run : σ → J → σ) : Bench σ J → List (QueueStep J) → List (QueueEvent J)
  | _, [] => []
  | b, s :: rest => (b.step run s).1 :: trace run (b.step run s).2 rest

/-- The schedule without the calls on one lease. The steps in which the worker took one of its jobs go
with them; left in, they would take the jobs behind it sooner. -/
def without (run : σ → J → σ) (lease : Nat) : Bench σ J → List (QueueStep J) → List (QueueStep J)
  | _, [] => []
  | b, s :: rest =>
    if (b.step run s).1.lease? = some lease then without run lease (b.step run s).2 rest
    else s :: without run lease (b.step run s).2 rest

section trace

variable (run : σ → J → σ) (b : Bench σ J)

theorem after_concat (steps : List (QueueStep J)) (s : QueueStep J) :
    b.after run (steps ++ [s]) = ((b.after run steps).step run s).2 := by
  simp [after]

theorem trace_concat (steps : List (QueueStep J)) (s : QueueStep J) :
    b.trace run (steps ++ [s]) = b.trace run steps ++ [((b.after run steps).step run s).1] := by
  induction steps generalizing b with
  | nil => rfl
  | cons first rest ih =>
      rw [List.cons_append, trace, ih, trace, List.cons_append]
      rfl

theorem take_trace (steps : List (QueueStep J)) (p : Nat) :
    (b.trace run steps).take p = b.trace run (steps.take p) := by
  induction steps generalizing b p with
  | nil => rw [trace, List.take_nil, List.take_nil, trace]
  | cons first rest ih =>
      cases p with
      | zero => rfl
      | succ p => rw [trace, List.take_succ_cons, List.take_succ_cons, trace, ih]

/-- The event of a step is what the step does after the steps before it. -/
theorem getElem?_trace (steps : List (QueueStep J)) (p : Nat) :
    (b.trace run steps)[p]? =
      steps[p]?.map fun s => ((b.after run (steps.take p)).step run s).1 := by
  induction steps generalizing b p with
  | nil => rfl
  | cons first rest ih =>
      cases p with
      | zero => rfl
      | succ p =>
          rw [trace, List.getElem?_cons_succ, ih, List.getElem?_cons_succ, List.take_succ_cons]
          rfl

end trace

end Bench

/-- A number above all others is none of them. -/
theorem nodup_concat_of_lt {numbers : List Nat} {n : Nat} (nodup : numbers.Nodup)
    (lt : ∀ m ∈ numbers, m < n) : (numbers ++ [n]).Nodup := by
  rw [List.nodup_append]
  refine ⟨nodup, by simp, ?_⟩
  intro m mem new fresh same
  rw [List.mem_singleton] at fresh
  exact Nat.lt_irrefl _ (fresh ▸ same ▸ lt m mem)

namespace JobQueue

variable {q : JobQueue J}

theorem isCancelled_cancel (q : JobQueue J) (lease other : Nat) :
    (q.cancel lease).isCancelled other = (q.isCancelled other || lease == other) := by
  rw [cancel]
  by_cases same : lease = other
  · subst same
    split
    case isTrue h => simp [h]
    case isFalse h => simp [isCancelled]
  · have ne : (lease == other) = false := by simpa using same
    split
    · simp [ne]
    · simp [isCancelled, Ne.symm same, ne]

theorem cancel_waiting (q : JobQueue J) (lease : Nat) : (q.cancel lease).waiting = q.waiting := by
  rw [cancel]
  split <;> rfl

theorem cancel_worker (q : JobQueue J) (lease : Nat) : (q.cancel lease).worker = q.worker := by
  rw [cancel]
  split <;> rfl

theorem cancel_name (q : JobQueue J) (lease : Nat) : (q.cancel lease).name = q.name := by
  rw [cancel]
  split <;> rfl

theorem cancel_nextLease (q : JobQueue J) (lease : Nat) :
    (q.cancel lease).nextLease = q.nextLease := by
  rw [cancel]
  split <;> rfl

theorem submit_of_cancelled (lease : Nat) (job : J) (h : q.isCancelled lease = true) :
    q.submit lease job =
      .error (.transportClosed (q.name ++ " lease " ++ toString lease ++ " was cancelled")) := by
  rw [submit, if_pos h]

theorem submit_of_running (lease : Nat) (job : J) (h : q.isCancelled lease = false)
    (running : q.worker = .running) :
    q.submit lease job =
      .ok { q with waiting := q.waiting ++ [⟨lease, job⟩], queued := q.queued + 1 } := by
  have available : q.isAvailable = true := by rw [isAvailable, running]; rfl
  rw [submit, if_neg (by simp [h]), if_pos available]

theorem take?_of_nil (h : q.waiting = []) : q.take? = none := by
  rw [take?, h]
  split <;> rfl

theorem take?_of_stopped (stopped : q.worker ≠ .running) : q.take? = none := by
  have unavailable : ¬q.isAvailable = true := by
    rw [isAvailable, beq_iff_eq]
    exact stopped
  rw [take?, if_neg unavailable]

theorem take?_of_cons {w : Waiting J} {rest : List (Waiting J)} (running : q.worker = .running)
    (h : q.waiting = w :: rest) :
    q.take? = some (if q.isCancelled w.lease then none else some w.job,
      { q with waiting := rest, queued := q.queued - 1 }) := by
  have available : q.isAvailable = true := by rw [isAvailable, running]; rfl
  rw [take?, if_pos available, h]

theorem waiting_of_take? {q' : JobQueue J} {job : Option J} (taken : q.take? = some (job, q')) :
    ∃ w, q.waiting = w :: q'.waiting ∧ (job = none ∨ job = some w.job) := by
  rw [take?] at taken
  split at taken
  · split at taken
    · cases taken
    · next w rest waiting =>
        cases taken
        refine ⟨w, waiting, ?_⟩
        split
        · exact .inl rfl
        · exact .inr rfl
  · cases taken

theorem eq_of_submit {q' : JobQueue J} {lease : Nat} {job : J}
    (submitted : q.submit lease job = .ok q') :
    q' = { q with waiting := q.waiting ++ [⟨lease, job⟩], queued := q.queued + 1 } := by
  rw [submit] at submitted
  split at submitted
  · cases submitted
  · split at submitted
    · cases submitted
      rfl
    · cases submitted

theorem waiting_of_submit {q' : JobQueue J} {lease : Nat} {job : J}
    (submitted : q.submit lease job = .ok q') : q'.waiting = q.waiting ++ [⟨lease, job⟩] := by
  rw [eq_of_submit submitted]

end JobQueue

namespace Bench

variable {σ : Type} {b : Bench σ J}

theorem step_work_of_nil (run : σ → J → σ) (h : b.queue.waiting = []) :
    b.step run .work = (.idle, b) := by
  have none : b.queue.take? = none := JobQueue.take?_of_nil h
  simp only [step, nextTake, JobQueue.work, none]

/-- The worker takes the oldest job and runs it unless its lease was cancelled. -/
theorem step_work_of_cons (run : σ → J → σ) {w : Waiting J} {rest : List (Waiting J)}
    (running : b.queue.worker = .running) (h : b.queue.waiting = w :: rest) :
    b.step run .work =
      (if b.queue.isCancelled w.lease then .skipped w else .ran w,
        { queue := { b.queue with waiting := rest, queued := b.queue.queued - 1 }
          device := if b.queue.isCancelled w.lease then b.device else run b.device w.job }) := by
  have taken := JobQueue.take?_of_cons running h
  cases hc : b.queue.isCancelled w.lease with
  | false =>
      rw [hc] at taken
      simp [step, nextTake, JobQueue.work, taken, h]
  | true =>
      rw [hc] at taken
      simp [step, nextTake, JobQueue.work, taken, h]

theorem step_submit_of_cancelled (run : σ → J → σ) {lease : Nat} (job : J)
    (h : b.queue.isCancelled lease = true) :
    b.step run (.submit lease job) =
      (.refused lease
        (.transportClosed (b.queue.name ++ " lease " ++ toString lease ++ " was cancelled")), b) := by
  simp only [step, JobQueue.submit_of_cancelled lease job h]

theorem step_submit_of_running (run : σ → J → σ) {lease : Nat} (job : J)
    (h : b.queue.isCancelled lease = false) (running : b.queue.worker = .running) :
    b.step run (.submit lease job) =
      (.accepted ⟨lease, job⟩,
        { b with queue := { b.queue with
            waiting := b.queue.waiting ++ [⟨lease, job⟩], queued := b.queue.queued + 1 } }) := by
  simp only [step, JobQueue.submit_of_running lease job h running]

end Bench

variable {σ : Type}

/-- The leases that were handed out. -/
def handedOut (events : List (QueueEvent J)) : List Nat :=
  events.filterMap QueueEvent.leased?

def acceptedJobs (events : List (QueueEvent J)) : List (Waiting J) :=
  events.filterMap QueueEvent.accepted?

/-- The jobs that the worker took. -/
def takenJobs (events : List (QueueEvent J)) : List (Waiting J) :=
  events.filterMap QueueEvent.taken?

def ranJobs (events : List (QueueEvent J)) : List (Waiting J) :=
  events.filterMap QueueEvent.ran?

theorem handedOut_concat (events : List (QueueEvent J)) (e : QueueEvent J) :
    handedOut (events ++ [e]) = handedOut events ++ e.leased?.toList := by
  cases e <;> simp [handedOut, QueueEvent.leased?]

theorem mem_handedOut {events : List (QueueEvent J)} {lease : Nat} :
    lease ∈ handedOut events ↔ .leased lease ∈ events := by
  rw [handedOut, List.mem_filterMap]
  constructor
  · rintro ⟨e, member, handed⟩
    cases e with
    | leased other =>
        cases handed
        exact member
    | _ => cases handed
  · exact fun member => ⟨.leased lease, member, rfl⟩

theorem acceptedJobs_concat (events : List (QueueEvent J)) (e : QueueEvent J) :
    acceptedJobs (events ++ [e]) = acceptedJobs events ++ e.accepted?.toList := by
  cases e <;> simp [acceptedJobs, QueueEvent.accepted?]

theorem takenJobs_concat (events : List (QueueEvent J)) (e : QueueEvent J) :
    takenJobs (events ++ [e]) = takenJobs events ++ e.taken?.toList := by
  cases e <;> simp [takenJobs, QueueEvent.taken?]

theorem ranJobs_concat (events : List (QueueEvent J)) (e : QueueEvent J) :
    ranJobs (events ++ [e]) = ranJobs events ++ e.ran?.toList := by
  cases e <;> simp [ranJobs, QueueEvent.ran?]

theorem ranJobs_sublist_takenJobs (events : List (QueueEvent J)) :
    (ranJobs events).Sublist (takenJobs events) := by
  induction events using List.reverseRecOn with
  | nil => exact List.Sublist.refl _
  | append_singleton events e ih =>
      rw [ranJobs_concat, takenJobs_concat]
      apply ih.append
      cases e with
      | skipped entry => exact List.nil_sublist _
      | _ => exact List.Sublist.refl _

def runJobs (run : σ → J → σ) (device : σ) (jobs : List (Waiting J)) : σ :=
  jobs.foldl (fun device entry => run device entry.job) device

/-- What one step does while the worker is there. -/
structure Stepped (run : σ → J → σ) (b : Bench σ J) (s : QueueStep J) (e : QueueEvent J)
    (c : Bench σ J) : Prop where
  name : c.queue.name = b.queue.name
  running : c.queue.worker = .running
  cancelled : ∀ lease, c.queue.isCancelled lease = (b.queue.isCancelled lease || s.revokes lease)
  /-- A lease that is handed out has the next number. -/
  leases : List.range c.queue.nextLease = List.range b.queue.nextLease ++ e.leased?.toList
  /-- A job comes in at the end or goes out at the front. -/
  fifo : b.queue.waiting ++ e.accepted?.toList = e.taken?.toList ++ c.queue.waiting
  device : c.device = runJobs run b.device e.ran?.toList

namespace Stepped

variable (run : σ → J → σ) {b : Bench σ J}

theorem submit (running : b.queue.worker = .running) (lease : Nat) (job : J) :
    Stepped run b (.submit lease job) (b.step run (.submit lease job)).1
      (b.step run (.submit lease job)).2 := by
  cases hc : b.queue.isCancelled lease with
  | true =>
      rw [Bench.step_submit_of_cancelled run job hc]
      exact ⟨rfl, running, fun _ => (Bool.or_false _).symm, (List.append_nil _).symm, List.append_nil _, rfl⟩
  | false =>
      rw [Bench.step_submit_of_running run job hc running]
      exact ⟨rfl, running, fun _ => (Bool.or_false _).symm, (List.append_nil _).symm, rfl, rfl⟩

theorem revoke (running : b.queue.worker = .running) (lease : Nat) {s : QueueStep J}
    (revokes : ∀ other, s.revokes other = (lease == other)) :
    Stepped run b s (.revoked lease) { b with queue := b.queue.cancel lease } := by
  refine ⟨b.queue.cancel_name lease, ?_, fun other => ?_, ?_, ?_, rfl⟩
  · exact (b.queue.cancel_worker lease).trans running
  · rw [revokes]
    exact b.queue.isCancelled_cancel lease other
  · rw [b.queue.cancel_nextLease lease]
    exact (List.append_nil _).symm
  · exact (List.append_nil _).trans (b.queue.cancel_waiting lease).symm

theorem work (running : b.queue.worker = .running) :
    Stepped run b .work (b.step run .work).1 (b.step run .work).2 := by
  cases hw : b.queue.waiting with
  | nil =>
      rw [Bench.step_work_of_nil run hw]
      exact ⟨rfl, running, fun _ => (Bool.or_false _).symm, (List.append_nil _).symm, List.append_nil _, rfl⟩
  | cons w rest =>
      rw [Bench.step_work_of_cons run running hw]
      have leases : List.range b.queue.nextLease = List.range b.queue.nextLease ++ [] := (List.append_nil _).symm
      have fifo : b.queue.waiting ++ [] = [w] ++ rest := by rw [List.append_nil, hw]; rfl
      cases hc : b.queue.isCancelled w.lease with
      | true => exact ⟨rfl, running, fun _ => (Bool.or_false _).symm, leases, fifo, rfl⟩
      | false => exact ⟨rfl, running, fun _ => (Bool.or_false _).symm, leases, fifo, rfl⟩

theorem step (running : b.queue.worker = .running) (s : QueueStep J) :
    Stepped run b s (b.step run s).1 (b.step run s).2 := by
  cases s with
  | lease => exact ⟨rfl, running, fun _ => (Bool.or_false _).symm, List.range_succ, List.append_nil _, rfl⟩
  | submit lease job => exact submit run running lease job
  | cancel lease => exact revoke run running lease fun _ => rfl
  | drop lease => exact revoke run running lease fun _ => rfl
  | work => exact work run running

end Stepped

section places

variable {run : σ → J → σ} {b : Bench σ J} {steps : List (QueueStep J)} {p : Nat}

theorem event_of_step {s : QueueStep J} (at' : steps[p]? = some s) :
    (b.trace run steps)[p]? = some ((b.after run (steps.take p)).step run s).1 := by
  rw [Bench.getElem?_trace, at']
  rfl

theorem step_of_event {e : QueueEvent J} (at' : (b.trace run steps)[p]? = some e) :
    ∃ s, steps[p]? = some s ∧ ((b.after run (steps.take p)).step run s).1 = e := by
  rw [Bench.getElem?_trace] at at'
  exact Option.map_eq_some_iff.mp at'

theorem after_step {s : QueueStep J} (at' : steps[p]? = some s) :
    b.after run (steps.take (p + 1)) = ((b.after run (steps.take p)).step run s).2 := by
  rw [List.take_add_one, at']
  exact b.after_concat run _ s

end places

namespace Bench

variable (run : σ → J → σ) {b : Bench σ J} {s : QueueStep J}

theorem idle_iff (running : b.queue.worker = .running) :
    (b.step run .work).1 = .idle ↔ b.queue.waiting = [] := by
  cases hw : b.queue.waiting with
  | nil => simp [step_work_of_nil run hw]
  | cons w rest =>
      rw [step_work_of_cons run running hw]
      dsimp only
      split <;> simp

theorem step_of_taken (running : b.queue.worker = .running) {entry : Waiting J}
    (took : (b.step run s).1.taken? = some entry) :
    s = .work ∧ (b.step run s).1 =
      if b.queue.isCancelled entry.lease then .skipped entry else .ran entry := by
  cases s with
  | submit lease job =>
      rw [step] at took
      split at took <;> cases took
  | work =>
      cases hw : b.queue.waiting with
      | nil =>
          rw [step_work_of_nil run hw] at took
          cases took
      | cons w rest =>
          rw [step_work_of_cons run running hw] at took ⊢
          have same : w = entry := by
            dsimp only at took
            split at took <;> exact Option.some.inj took
          rw [same]
          exact ⟨rfl, rfl⟩
  | _ => cases took

/-- The worker takes a job, or none waits for it. -/
theorem event_of_work (running : b.queue.worker = .running) :
    (b.step run .work).1 = .idle ∨
      ∃ entry, (b.step run .work).1 = .skipped entry ∨ (b.step run .work).1 = .ran entry := by
  cases hw : b.queue.waiting with
  | nil => exact .inl (by rw [step_work_of_nil run hw])
  | cons w rest =>
      rw [step_work_of_cons run running hw]
      refine .inr ⟨w, ?_⟩
      dsimp only
      split
      · exact .inl rfl
      · exact .inr rfl

theorem step_of_leased (running : b.queue.worker = .running) {lease : Nat}
    (event : (b.step run s).1 = .leased lease) : s = .lease ∧ lease = b.queue.nextLease := by
  cases s with
  | lease =>
      cases event
      exact ⟨rfl, rfl⟩
  | submit owner job =>
      rw [step] at event
      split at event <;> cases event
  | work =>
      rcases event_of_work run running with same | ⟨entry, same | same⟩ <;> rw [same] at event <;> cases event
  | cancel _ | drop _ => cases event

theorem step_of_accepted (running : b.queue.worker = .running) {entry : Waiting J}
    (event : (b.step run s).1 = .accepted entry) : s = .submit entry.lease entry.job := by
  cases s with
  | submit lease job =>
      rw [step] at event
      split at event <;> cases event
      rfl
  | work =>
      rcases event_of_work run running with same | ⟨entry, same | same⟩ <;> rw [same] at event <;> cases event
  | _ => cases event

theorem step_of_refused (running : b.queue.worker = .running) {lease : Nat} {failure : Failure}
    (event : (b.step run s).1 = .refused lease failure) : (b.step run s).2 = b := by
  cases s with
  | submit owner job =>
      cases hc : b.queue.isCancelled owner with
      | true => rw [step_submit_of_cancelled run job hc]
      | false =>
          rw [step_submit_of_running run job hc running] at event
          cases event
  | work =>
      rcases event_of_work run running with same | ⟨entry, same | same⟩ <;> rw [same] at event <;> cases event
  | _ => cases event

end Bench

end Switchboard
