import Switchboard.Proofs.Hardware.QueueApart

/-!
The queue law: which jobs run, in which order, and how leases keep apart.
-/

namespace Switchboard

variable {σ J : Type}

/-- What holds of a bench after steps with these events. -/
structure Queued (run : σ → J → σ) (name : String) (device : σ) (steps : List (QueueStep J))
    (events : List (QueueEvent J)) (b : Bench σ J) : Prop where
  name : b.queue.name = name
  running : b.queue.worker = .running
  cancelled : ∀ lease, b.queue.isCancelled lease = revokedIn steps lease
  /-- The numbers below the next lease are those that were handed out, and zero. -/
  leases : List.range b.queue.nextLease = 0 :: handedOut events
  fifo : acceptedJobs events = takenJobs events ++ b.queue.waiting
  device : b.device = runJobs run device (ranJobs events)

namespace Queued

variable {run : σ → J → σ} {name : String} {device : σ} {steps : List (QueueStep J)}
  {events : List (QueueEvent J)} {b : Bench σ J}

theorem start : Queued run name device [] [] (Bench.start name device) :=
  ⟨rfl, rfl, fun _ => rfl, rfl, rfl, rfl⟩

theorem step (h : Queued run name device steps events b) (s : QueueStep J) :
    Queued run name device (steps ++ [s]) (events ++ [(b.step run s).1]) (b.step run s).2 := by
  have stepped := Stepped.step run h.running s
  refine ⟨stepped.name.trans h.name, stepped.running, fun lease => ?_, ?_, ?_, ?_⟩
  · rw [stepped.cancelled, h.cancelled, revokedIn_concat]
  · rw [stepped.leases, h.leases, handedOut_concat, List.cons_append]
  · rw [acceptedJobs_concat, h.fifo, List.append_assoc, stepped.fifo, ← List.append_assoc,
      takenJobs_concat]
  · rw [stepped.device, h.device, ranJobs_concat, runJobs, runJobs, runJobs, List.foldl_append]

theorem after (run : σ → J → σ) (name : String) (device : σ) (steps : List (QueueStep J)) :
    Queued run name device steps ((Bench.start name device).trace run steps)
      ((Bench.start name device).after run steps) := by
  induction steps using List.reverseRecOn with
  | nil => exact start
  | append_singleton steps s ih =>
      rw [Bench.trace_concat, Bench.after_concat]
      exact ih.step s

theorem nodup_handedOut (h : Queued run name device steps events b) : (handedOut events).Nodup := by
  have below := List.nodup_range (n := b.queue.nextLease)
  rw [h.leases] at below
  exact (List.nodup_cons.mp below).2

theorem lt_nextLease (h : Queued run name device steps events b) {lease : Nat}
    (handed : lease ∈ handedOut events) : lease < b.queue.nextLease := by
  rw [← List.mem_range, h.leases]
  exact List.mem_cons_of_mem 0 handed

theorem ran_sublist_accepted (h : Queued run name device steps events b) :
    (ranJobs events).Sublist (acceptedJobs events) := by
  rw [h.fifo]
  exact (ranJobs_sublist_takenJobs events).trans (List.sublist_append_left _ _)

end Queued

def cancelledFailure (name : String) (lease : Nat) : Failure :=
  .transportClosed (name ++ " lease " ++ toString lease ++ " was cancelled")

/-- Calls are made only on leases that were handed out before. -/
def OnLeases (steps : List (QueueStep J)) (events : List (QueueEvent J)) : Prop :=
  ∀ (p : Nat) (s : QueueStep J) (lease : Nat), steps[p]? = some s → s.lease? = some lease →
    lease ∈ handedOut (events.take p)

/-- What every run of one queue keeps to. Steps and their events have the same places. -/
structure QueueLaw (run : σ → J → σ) (name : String) (device : σ) (steps : List (QueueStep J))
    (b : Bench σ J) (events : List (QueueEvent J)) : Prop where
  /-- A lease is handed out whenever one is asked for, and only then. -/
  leased : ∀ p : Nat, steps[p]? = some .lease ↔ ∃ lease, events[p]? = some (.leased lease)
  /-- No lease is handed out twice. -/
  distinct : (handedOut events).Nodup
  /-- A lease is new when it is handed out: no call was made on it, so it was neither cancelled nor dropped. -/
  fresh : OnLeases steps events → ∀ p lease, events[p]? = some (.leased lease) →
    (∀ s ∈ steps.take p, s.lease? ≠ some lease) ∧ revokedIn (steps.take p) lease = false
  /-- A submission is refused if its lease was cancelled or dropped before, and only then. -/
  submitted : ∀ p lease job, steps[p]? = some (.submit lease job) →
    events[p]? = some
      (if revokedIn (steps.take p) lease then .refused lease (cancelledFailure name lease)
      else .accepted ⟨lease, job⟩)
  /-- A refused submission changes nothing. -/
  refused : ∀ p lease failure, events[p]? = some (.refused lease failure) →
    b.after run (steps.take (p + 1)) = b.after run (steps.take p)
  /-- Nothing is accepted but what is submitted. -/
  accepted : ∀ (p : Nat) (entry : Waiting J), events[p]? = some (.accepted entry) →
    steps[p]? = some (.submit entry.lease entry.job)
  /-- The worker takes each accepted job at most once, in the order of submission over all leases. -/
  fifo : acceptedJobs events = takenJobs events ++ (b.after run steps).queue.waiting
  /-- A job that is taken runs unless its lease was cancelled or dropped before. -/
  taken : ∀ p e entry, events[p]? = some e → e.taken? = some entry →
    steps[p]? = some .work ∧
      e = if revokedIn (steps.take p) entry.lease then .skipped entry else .ran entry
  /-- The worker takes a job whenever one waits. -/
  worked : ∀ p, steps[p]? = some .work →
    (events[p]? = some .idle ↔ acceptedJobs (events.take p) = takenJobs (events.take p))
  /-- Nothing reaches the device but the jobs that ran. -/
  device : (b.after run steps).device = runJobs run device (ranJobs events)
  /-- Without the calls on one lease the run does for the others what it did with them. -/
  without : ∀ lease,
    b.trace run (b.without run lease steps) = events.filter (·.lease? ≠ some lease)
  /-- In particular the same jobs run for the others. -/
  ran_without : ∀ lease,
    ranJobs (b.trace run (b.without run lease steps)) =
      (ranJobs events).filter (·.lease ≠ lease)
  /-- Nothing but the calls on the lease and takings of its jobs is left out. -/
  calls_without : ∀ lease,
    (b.without run lease steps).filter QueueStep.isCall =
      steps.filter fun s => s.isCall && s.lease? ≠ some lease
  /-- With the steps of the worker left in, what ran for the others still runs, in the same order. -/
  ran_deleted : ∀ lease,
    ((ranJobs events).filter (·.lease ≠ lease)).Sublist
      (ranJobs (b.trace run (steps.filter (·.lease? ≠ some lease))))
  /-- Nothing else runs for them if they had nothing left to run. -/
  ran_deleted_of_done : ∀ lease,
    (ranJobs events).filter (·.lease ≠ lease) = (acceptedJobs events).filter (·.lease ≠ lease) →
    ranJobs (b.trace run (steps.filter (·.lease? ≠ some lease))) =
      (ranJobs events).filter (·.lease ≠ lease)

theorem queue_law (run : σ → J → σ) (name : String) (device : σ) (steps : List (QueueStep J)) :
    QueueLaw run name device steps (.start name device)
      ((Bench.start name device).trace run steps) where
  leased p := by
    constructor
    · intro asked
      exact ⟨_, event_of_step asked⟩
    · rintro ⟨lease, at'⟩
      have before := Queued.after run name device (steps.take p)
      obtain ⟨s, made, event⟩ := step_of_event at'
      rw [made, (Bench.step_of_leased run before.running event).1]
  distinct := (Queued.after run name device steps).nodup_handedOut
  fresh onLeases p lease at' := by
    have before := Queued.after run name device (steps.take p)
    obtain ⟨_, _, event⟩ := step_of_event at'
    obtain ⟨-, next⟩ := Bench.step_of_leased run before.running event
    have untouched : ∀ s ∈ steps.take p, s.lease? ≠ some lease := by
      intro s member concerns
      obtain ⟨q, bound, made⟩ := List.mem_take_iff_getElem.mp member
      have earlier : q < p := by omega
      -- The lease was handed out before this call, so its number is below the next one.
      have handed := mem_handedOut.mp (onLeases q s lease (List.getElem?_eq_some_iff.mpr ⟨_, made⟩) concerns)
      have handed' := mem_handedOut.mpr (List.take_subset_take_left _ (Nat.le_of_lt earlier) handed)
      rw [Bench.take_trace] at handed'
      exact Nat.ne_of_lt (before.lt_nextLease handed') next
    refine ⟨untouched, ?_⟩
    rw [revokedIn, List.any_eq_false]
    exact fun s member revokes => untouched s member (QueueStep.lease?_of_revokes revokes)
  submitted p lease job made := by
    have before := Queued.after run name device (steps.take p)
    rw [event_of_step made, ← before.cancelled]
    cases hc : ((Bench.start name device).after run (steps.take p)).queue.isCancelled lease with
    | true =>
        rw [Bench.step_submit_of_cancelled run job hc, before.name]
        rfl
    | false =>
        rw [Bench.step_submit_of_running run job hc before.running]
        rfl
  refused p lease failure at' := by
    have before := Queued.after run name device (steps.take p)
    obtain ⟨s, made, event⟩ := step_of_event at'
    rw [after_step made]
    exact Bench.step_of_refused run before.running event
  accepted p entry at' := by
    have before := Queued.after run name device (steps.take p)
    obtain ⟨s, made, event⟩ := step_of_event at'
    rw [made, Bench.step_of_accepted run before.running event]
  fifo := (Queued.after run name device steps).fifo
  taken p e entry at' took := by
    have before := Queued.after run name device (steps.take p)
    obtain ⟨s, made, rfl⟩ := step_of_event at'
    obtain ⟨rfl, event⟩ := Bench.step_of_taken run before.running took
    rw [← before.cancelled]
    exact ⟨made, event⟩
  worked p made := by
    have before := Queued.after run name device (steps.take p)
    rw [event_of_step made, Option.some.injEq, Bench.idle_iff run before.running, Bench.take_trace,
      before.fifo]
    exact List.append_right_eq_self.symm
  device := (Queued.after run name device steps).device
  without lease := (Apart.start lease name device).trace_without steps
  ran_without lease := by
    rw [(Apart.start lease name device).trace_without steps, ranJobs_filter]
  calls_without lease := Bench.calls_without run lease _ steps
  ran_deleted lease := by
    obtain ⟨early, ahead⟩ := Ahead.after run lease name device steps
    exact (List.sublist_append_left _ _).trans ahead.kept
  ran_deleted_of_done lease done := by
    obtain ⟨early, ahead⟩ := Ahead.after run lease name device steps
    have more := (List.sublist_append_left _ _).trans ahead.kept
    have fewer := (Queued.after run name device
      (steps.filter (·.lease? ≠ some lease))).ran_sublist_accepted
    rw [ahead.accepted, ← done] at fewer
    exact fewer.eq_of_length_le more.length_le

end Switchboard
