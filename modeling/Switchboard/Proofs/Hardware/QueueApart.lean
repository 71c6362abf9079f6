import Switchboard.Proofs.Hardware.QueueRun

/-!
Two runs side by side, the second without the calls on one lease. If the steps in which the worker took
the jobs of that lease are left out too, the others do not notice. If they are left in, the worker of the
second run is ahead, and what ran for the others in the first run runs in the second one too.
-/

namespace Switchboard

variable {σ J : Type}

/-- A bench and the same bench without the jobs of one lease; of the jobs that wait in the first, the
worker of the second may have taken some already. -/
structure Apart (lease : Nat) (early : List (Waiting J)) (b c : Bench σ J) : Prop where
  name : c.queue.name = b.queue.name
  nextLease : c.queue.nextLease = b.queue.nextLease
  running : b.queue.worker = .running
  running' : c.queue.worker = .running
  cancelled : ∀ other, other ≠ lease → c.queue.isCancelled other = b.queue.isCancelled other
  waiting : b.queue.waiting.filter (·.lease ≠ lease) = early ++ c.queue.waiting

namespace Apart

variable {run : σ → J → σ} {lease : Nat} {early rest : List (Waiting J)} {w : Waiting J}
  {b c : Bench σ J}

theorem start (lease : Nat) (name : String) (device : σ) :
    Apart (J := J) lease [] (.start name device) (.start name device) :=
  ⟨rfl, rfl, rfl, rfl, fun _ _ => rfl, rfl⟩

theorem cancel_own (h : Apart lease early b c) :
    Apart lease early { b with queue := b.queue.cancel lease } c := by
  refine ⟨?_, ?_, ?_, h.running', fun other ne => ?_, ?_⟩
  · exact h.name.trans (b.queue.cancel_name lease).symm
  · exact h.nextLease.trans (b.queue.cancel_nextLease lease).symm
  · exact (b.queue.cancel_worker lease).trans h.running
  · have apart : (lease == other) = false := by simpa using Ne.symm ne
    rw [JobQueue.isCancelled_cancel, apart, Bool.or_false]
    exact h.cancelled other ne
  · rw [b.queue.cancel_waiting]
    exact h.waiting

theorem cancel_both (h : Apart lease early b c) (other : Nat) :
    Apart lease early { b with queue := b.queue.cancel other }
      { c with queue := c.queue.cancel other } := by
  refine ⟨?_, ?_, ?_, ?_, fun third ne => ?_, ?_⟩
  · rw [c.queue.cancel_name, b.queue.cancel_name, h.name]
  · rw [c.queue.cancel_nextLease, b.queue.cancel_nextLease, h.nextLease]
  · exact (b.queue.cancel_worker other).trans h.running
  · exact (c.queue.cancel_worker other).trans h.running'
  · rw [JobQueue.isCancelled_cancel, JobQueue.isCancelled_cancel, h.cancelled third ne]
  · rw [c.queue.cancel_waiting, b.queue.cancel_waiting, h.waiting]

/-- A call on the lease does not show without it. -/
theorem call_own (run : σ → J → σ) (h : Apart lease early b c) {s : QueueStep J}
    (own : s.lease? = some lease) : Apart lease early (b.step run s).2 c := by
  cases s with
  | submit owner job =>
      obtain rfl : owner = lease := Option.some.inj own
      cases hc : b.queue.isCancelled owner with
      | true =>
          rw [Bench.step_submit_of_cancelled run job hc]
          exact h
      | false =>
          rw [Bench.step_submit_of_running run job hc h.running]
          refine ⟨h.name, h.nextLease, h.running, h.running', h.cancelled, ?_⟩
          rw [List.filter_append, h.waiting]
          simp
  | cancel owner =>
      obtain rfl : owner = lease := Option.some.inj own
      exact h.cancel_own
  | drop owner =>
      obtain rfl : owner = lease := Option.some.inj own
      exact h.cancel_own
  | _ => cases own

/-- Any other call is the same on both sides. -/
theorem call_other (run : σ → J → σ) (h : Apart lease early b c) {s : QueueStep J}
    (call : s.isCall = true) (other : s.lease? ≠ some lease) :
    (c.step run s).1 = (b.step run s).1 ∧ Apart lease early (b.step run s).2 (c.step run s).2 := by
  cases s with
  | lease =>
      refine ⟨congrArg QueueEvent.leased h.nextLease, h.name, ?_, h.running, h.running', h.cancelled,
        h.waiting⟩
      exact congrArg (· + 1) h.nextLease
  | submit owner job =>
      have apart : owner ≠ lease := fun same => other (congrArg some same)
      -- The flag of any other lease is the same on both sides, so both refuse or both accept.
      cases hc : b.queue.isCancelled owner with
      | true =>
          rw [Bench.step_submit_of_cancelled run job hc,
            Bench.step_submit_of_cancelled run job ((h.cancelled owner apart).trans hc), h.name]
          exact ⟨rfl, h⟩
      | false =>
          rw [Bench.step_submit_of_running run job hc h.running,
            Bench.step_submit_of_running run job ((h.cancelled owner apart).trans hc) h.running']
          refine ⟨rfl, h.name, h.nextLease, h.running, h.running', h.cancelled, ?_⟩
          rw [List.filter_append, h.waiting]
          simp [apart]
  | cancel owner => exact ⟨rfl, h.cancel_both owner⟩
  | drop owner => exact ⟨rfl, h.cancel_both owner⟩
  | work => cases call

/-- Taking a job of the lease does not show without it. -/
theorem work_own (run : σ → J → σ) (h : Apart lease early b c) (waits : b.queue.waiting = w :: rest)
    (own : w.lease = lease) : Apart lease early (b.step run .work).2 c := by
  have waiting := h.waiting
  rw [waits, List.filter_cons_of_neg (by simpa using own)] at waiting
  rw [Bench.step_work_of_cons run h.running waits]
  exact ⟨h.name, h.nextLease, h.running, h.running', h.cancelled, waiting⟩

/-- The worker takes a job that the other one took early. -/
theorem work_late (run : σ → J → σ) (h : Apart lease (w :: early) b c)
    (waits : b.queue.waiting = w :: rest) (other : w.lease ≠ lease) :
    Apart lease early (b.step run .work).2 c := by
  have waiting := h.waiting
  rw [waits, List.filter_cons_of_pos (by simpa using other)] at waiting
  rw [Bench.step_work_of_cons run h.running waits]
  exact ⟨h.name, h.nextLease, h.running, h.running', h.cancelled, (List.cons.inj waiting).2⟩

/-- The worker without the lease takes a job early. -/
theorem work_early (run : σ → J → σ) (h : Apart lease early b c)
    (waits : c.queue.waiting = w :: rest) :
    Apart lease (early ++ [w]) b (c.step run .work).2 := by
  rw [Bench.step_work_of_cons run h.running' waits]
  refine ⟨h.name, h.nextLease, h.running, h.running', h.cancelled, ?_⟩
  rw [h.waiting, waits, List.append_assoc]
  rfl

/-- Jobs that wait without the lease are of others. -/
theorem lease_ne (h : Apart lease early b c) (which : w ∈ early ++ c.queue.waiting) :
    w.lease ≠ lease := by
  rw [← h.waiting, List.mem_filter] at which
  simpa using which.2

/-- Workers that are level take the same job of another lease. -/
theorem work_both (run : σ → J → σ) (h : Apart lease [] b c)
    (other : (b.step run .work).1.lease? ≠ some lease) :
    (c.step run .work).1 = (b.step run .work).1 ∧
      Apart lease [] (b.step run .work).2 (c.step run .work).2 := by
  have waiting := h.waiting
  cases waits : b.queue.waiting with
  | nil =>
      rw [waits, List.filter_nil, List.nil_append] at waiting
      rw [Bench.step_work_of_nil run waits, Bench.step_work_of_nil run waiting.symm]
      exact ⟨rfl, h⟩
  | cons w rest =>
      rw [Bench.step_work_of_cons run h.running waits] at other ⊢
      have apart : w.lease ≠ lease := by
        dsimp only at other
        intro same
        split at other <;> exact other (congrArg some same)
      rw [waits, List.filter_cons_of_pos (by simpa using apart), List.nil_append] at waiting
      rw [Bench.step_work_of_cons run h.running' waiting.symm, h.cancelled w.lease apart]
      exact ⟨rfl, h.name, h.nextLease, h.running, h.running', h.cancelled, rfl⟩

end Apart

namespace Bench

variable (run : σ → J → σ)

/-- A call and its event concern the same lease. -/
theorem lease?_step (b : Bench σ J) {s : QueueStep J} (call : s.isCall = true) :
    (b.step run s).1.lease? = s.lease? := by
  cases s with
  | submit owner job =>
      rw [step]
      split <;> rfl
  | work => cases call
  | _ => rfl

end Bench

/-- Without a lease, a run does what it did for the others. -/
theorem Apart.trace_without {run : σ → J → σ} {lease : Nat} {b c : Bench σ J}
    (h : Apart lease [] b c) (steps : List (QueueStep J)) :
    c.trace run (b.without run lease steps) =
      (b.trace run steps).filter (·.lease? ≠ some lease) := by
  -- Both runs are followed side by side; the second one stands still while the lease is served.
  induction steps generalizing b c with
  | nil => rfl
  | cons s rest ih =>
      rw [Bench.without, Bench.trace]
      by_cases own : (b.step run s).1.lease? = some lease
      · rw [if_pos own, List.filter_cons_of_neg (by simp [own])]
        apply ih
        cases s with
        | work =>
            cases waits : b.queue.waiting with
            | nil =>
                rw [Bench.step_work_of_nil run waits] at own
                cases own
            | cons w waiting =>
                have owner : w.lease = lease := by
                  rw [Bench.step_work_of_cons run h.running waits] at own
                  dsimp only at own
                  split at own <;> exact Option.some.inj own
                exact h.work_own run waits owner
        | _ => exact h.call_own run ((Bench.lease?_step run b rfl).symm.trans own)
      · obtain ⟨same, next⟩ : (c.step run s).1 = (b.step run s).1 ∧
            Apart lease [] (b.step run s).2 (c.step run s).2 := by
          cases s with
          | work => exact h.work_both run own
          | _ => exact h.call_other run rfl fun owner =>
              own ((Bench.lease?_step run b rfl).trans owner)
        rw [if_neg own, List.filter_cons_of_pos (by simp [own]), Bench.trace, same, ih next]

namespace Bench

variable (run : σ → J → σ)

/-- Only calls on other leases and the worker's other steps are left without a lease. -/
theorem calls_without (lease : Nat) (b : Bench σ J) (steps : List (QueueStep J)) :
    (b.without run lease steps).filter QueueStep.isCall =
      steps.filter fun s => s.isCall && s.lease? ≠ some lease := by
  induction steps generalizing b with
  | nil => rfl
  | cons s rest ih =>
      rw [without]
      by_cases call : s.isCall = true
      · by_cases own : s.lease? = some lease
        · rw [if_pos ((lease?_step run b call).trans own), List.filter_cons_of_neg (by simp [own]), ih]
        · rw [if_neg (lease?_step run b call ▸ own), List.filter_cons_of_pos call,
            List.filter_cons_of_pos (by simp [call, own]), ih]
      · rw [List.filter_cons_of_neg (by simp [call])]
        split
        · exact ih _
        · rw [List.filter_cons_of_neg call, ih]

end Bench

theorem ranJobs_filter (events : List (QueueEvent J)) (lease : Nat) :
    ranJobs (events.filter (·.lease? ≠ some lease)) = (ranJobs events).filter (·.lease ≠ lease) := by
  induction events using List.reverseRecOn with
  | nil => rfl
  | append_singleton events e ih =>
      rw [ranJobs_concat, List.filter_append, List.filter_append, ← ih]
      by_cases own : e.lease? = some lease
      · rw [List.filter_cons_of_neg (by simp [own]), List.filter_nil, List.append_nil]
        cases e <;> simp_all [QueueEvent.ran?, QueueEvent.lease?]
      · rw [List.filter_cons_of_pos (by simp [own]), List.filter_nil, ranJobs_concat]
        cases e <;> simp_all [QueueEvent.ran?, QueueEvent.lease?]

/-- Holds of the jobs that would run if they were taken now. -/
def Bench.live (b : Bench σ J) (entry : Waiting J) : Bool :=
  !b.queue.isCancelled entry.lease

namespace Bench

variable (run : σ → J → σ) {b : Bench σ J} {s : QueueStep J}

theorem ran?_call (b : Bench σ J) (call : s.isCall = true) : (b.step run s).1.ran? = none := by
  cases s with
  | submit owner job =>
      rw [step]
      split <;> rfl
  | work => cases call
  | _ => rfl

theorem accepted?_work (running : b.queue.worker = .running) :
    (b.step run .work).1.accepted? = none := by
  cases waits : b.queue.waiting with
  | nil =>
      rw [step_work_of_nil run waits]
      rfl
  | cons w rest =>
      rw [step_work_of_cons run running waits]
      dsimp only
      split <;> rfl

theorem ran?_work (running : b.queue.worker = .running) {w : Waiting J} {rest : List (Waiting J)}
    (waits : b.queue.waiting = w :: rest) :
    (b.step run .work).1.ran?.toList = [w].filter b.live := by
  rw [step_work_of_cons run running waits]
  cases hc : b.queue.isCancelled w.lease with
  | true => simp [live, hc, QueueEvent.ran?]
  | false => simp [live, hc, QueueEvent.ran?]

theorem accepted?_filter (running : b.queue.worker = .running) (lease : Nat) :
    (b.step run s).1.accepted?.toList.filter (·.lease ≠ lease) =
      if s.lease? = some lease then [] else (b.step run s).1.accepted?.toList := by
  cases accepted : (b.step run s).1.accepted? with
  | none => simp
  | some entry =>
      have event : (b.step run s).1 = .accepted entry := by
        cases made : (b.step run s).1 <;> rw [made] at accepted <;> cases accepted
        rfl
      rw [step_of_accepted run running event, QueueStep.lease?]
      by_cases own : entry.lease = lease
      · simp [own]
      · simp [own]

/-- What may still run after a step might have run before. -/
theorem filter_live_step (running : b.queue.worker = .running) (entries : List (Waiting J)) :
    (entries.filter (b.step run s).2.live).Sublist (entries.filter b.live) := by
  have less : (b.step run s).2.live = fun entry => !s.revokes entry.lease && b.live entry := by
    funext entry
    rw [live, (Stepped.step run running s).cancelled, live]
    cases b.queue.isCancelled entry.lease <;> cases s.revokes entry.lease <;> rfl
  rw [less, ← List.filter_filter]
  exact List.filter_sublist

end Bench

/-- Two runs, the second without the calls on one lease: its worker is ahead. -/
structure Ahead (lease : Nat) (early : List (Waiting J)) (b c : Bench σ J)
    (events fewer : List (QueueEvent J)) : Prop where
  apart : Apart lease early b c
  accepted : acceptedJobs fewer = (acceptedJobs events).filter (·.lease ≠ lease)
  /-- What ran for the others, and what may still run of the jobs that were taken early. -/
  kept : ((ranJobs events).filter (·.lease ≠ lease) ++ early.filter b.live).Sublist (ranJobs fewer)

namespace Ahead

variable {run : σ → J → σ} {lease : Nat} {early : List (Waiting J)} {b c : Bench σ J}
  {events fewer : List (QueueEvent J)}

theorem call_own (run : σ → J → σ) (h : Ahead lease early b c events fewer) {s : QueueStep J}
    (own : s.lease? = some lease) :
    Ahead lease early (b.step run s).2 c (events ++ [(b.step run s).1]) fewer := by
  have call : s.isCall = true := by
    cases s with
    | work => cases own
    | _ => rfl
  refine ⟨h.apart.call_own run own, ?_, ?_⟩
  · rw [acceptedJobs_concat, List.filter_append, b.accepted?_filter run h.apart.running, if_pos own,
      List.append_nil]
    exact h.accepted
  · rw [ranJobs_concat, b.ran?_call run call, Option.toList_none, List.append_nil]
    exact ((b.filter_live_step run h.apart.running early).append_left _).trans h.kept

theorem call_other (run : σ → J → σ) (h : Ahead lease early b c events fewer) {s : QueueStep J}
    (call : s.isCall = true) (other : s.lease? ≠ some lease) :
    Ahead lease early (b.step run s).2 (c.step run s).2 (events ++ [(b.step run s).1])
      (fewer ++ [(c.step run s).1]) := by
  obtain ⟨same, apart⟩ := h.apart.call_other run call other
  refine ⟨apart, ?_, ?_⟩
  · rw [acceptedJobs_concat, acceptedJobs_concat, List.filter_append,
      b.accepted?_filter run h.apart.running, if_neg other, same, h.accepted]
  · rw [ranJobs_concat, ranJobs_concat, b.ran?_call run call, c.ran?_call run call,
      Option.toList_none, List.append_nil, List.append_nil]
    exact ((b.filter_live_step run h.apart.running early).append_left _).trans h.kept

theorem work_early (run : σ → J → σ) (h : Ahead lease early b c events fewer) :
    ∃ early', (early' = [] → (c.step run .work).2.queue.waiting = []) ∧
      Ahead lease early' b (c.step run .work).2 events (fewer ++ [(c.step run .work).1]) := by
  have accepted : acceptedJobs (fewer ++ [(c.step run .work).1]) =
      (acceptedJobs events).filter (·.lease ≠ lease) := by
    rw [acceptedJobs_concat, c.accepted?_work run h.apart.running', Option.toList_none,
      List.append_nil, h.accepted]
  cases waits : c.queue.waiting with
  | nil =>
      refine ⟨early, ?_, ?_, accepted, ?_⟩
      · intro _
        rw [Bench.step_work_of_nil run waits, waits]
      · rw [Bench.step_work_of_nil run waits]
        exact h.apart
      · rw [Bench.step_work_of_nil run waits, ranJobs_concat]
        exact h.kept.trans (List.sublist_append_left _ _)
  | cons w rest =>
      refine ⟨early ++ [w], ?_, h.apart.work_early run waits, accepted, ?_⟩
      · intro impossible
        simp at impossible
      · have other : w.lease ≠ lease := h.apart.lease_ne (by rw [waits]; simp)
        have live : c.live w = b.live w := by rw [Bench.live, Bench.live, h.apart.cancelled _ other]
        have taken : [w].filter c.live = [w].filter b.live := by
          rw [List.filter_cons, List.filter_cons, live, List.filter_nil, List.filter_nil]
        rw [ranJobs_concat, c.ran?_work run h.apart.running' waits, taken, List.filter_append,
          ← List.append_assoc]
        exact h.kept.append_right _

theorem work_late (run : σ → J → σ) (h : Ahead lease early b c events fewer)
    (level : early = [] → c.queue.waiting = []) :
    ∃ early', Ahead lease early' (b.step run .work).2 c (events ++ [(b.step run .work).1]) fewer := by
  have accepted : acceptedJobs fewer =
      (acceptedJobs (events ++ [(b.step run .work).1])).filter (·.lease ≠ lease) := by
    rw [acceptedJobs_concat, b.accepted?_work run h.apart.running, Option.toList_none,
      List.append_nil, h.accepted]
  have less (entries : List (Waiting J)) : (entries.filter (b.step run .work).2.live).Sublist
      (entries.filter b.live) := b.filter_live_step run h.apart.running entries
  cases waits : b.queue.waiting with
  | nil =>
      refine ⟨early, ?_, accepted, ?_⟩
      · rw [Bench.step_work_of_nil run waits]
        exact h.apart
      · have idle : (QueueEvent.idle : QueueEvent J).ran?.toList = [] := rfl
        rw [Bench.step_work_of_nil run waits, ranJobs_concat, idle, List.append_nil]
        exact h.kept
  | cons w rest =>
      have ran := b.ran?_work run h.apart.running waits
      by_cases own : w.lease = lease
      · refine ⟨early, h.apart.work_own run waits own, accepted, ?_⟩
        have gone : ([w].filter b.live).filter (·.lease ≠ lease) = [] := by
          rw [List.filter_filter]
          simp [own]
        rw [ranJobs_concat, ran, List.filter_append, gone, List.append_nil]
        exact ((less early).append_left _).trans h.kept
      · have waiting := h.apart.waiting
        rw [waits, List.filter_cons_of_pos (by simpa using own)] at waiting
        -- The other worker is ahead, so it has taken this job already.
        cases early with
        | nil =>
            rw [level rfl] at waiting
            cases waiting
        | cons first early =>
            obtain rfl : w = first := (List.cons.inj waiting).1
            refine ⟨early, h.apart.work_late run waits own, accepted, ?_⟩
            have stays : ([w].filter b.live).filter (·.lease ≠ lease) = [w].filter b.live := by
              apply List.filter_eq_self.mpr
              intro entry member
              rw [List.mem_singleton.mp (List.mem_filter.mp member).1]
              simpa using own
            have kept := h.kept
            rw [← List.singleton_append, List.filter_append, ← List.append_assoc] at kept
            rw [ranJobs_concat, ran, List.filter_append, stays]
            exact ((less early).append_left _).trans kept

theorem work (run : σ → J → σ) (h : Ahead lease early b c events fewer) :
    ∃ early', Ahead lease early' (b.step run .work).2 (c.step run .work).2
      (events ++ [(b.step run .work).1]) (fewer ++ [(c.step run .work).1]) := by
  obtain ⟨early', level, ahead⟩ := h.work_early run
  exact ahead.work_late run level

/-- The second worker stays ahead along every schedule. -/
theorem after (run : σ → J → σ) (lease : Nat) (name : String) (device : σ)
    (steps : List (QueueStep J)) :
    ∃ early, Ahead lease early ((Bench.start name device).after run steps)
      ((Bench.start name device).after run (steps.filter (·.lease? ≠ some lease)))
      ((Bench.start name device).trace run steps)
      ((Bench.start name device).trace run (steps.filter (·.lease? ≠ some lease))) := by
  induction steps using List.reverseRecOn with
  | nil => exact ⟨[], .start lease name device, rfl, List.Sublist.refl _⟩
  | append_singleton steps s ih =>
      obtain ⟨early, ahead⟩ := ih
      rw [Bench.trace_concat, Bench.after_concat, List.filter_append]
      by_cases own : s.lease? = some lease
      · rw [List.filter_cons_of_neg (by simp [own]), List.filter_nil, List.append_nil]
        exact ⟨early, ahead.call_own run own⟩
      · rw [List.filter_cons_of_pos (by simp [own]), List.filter_nil, Bench.trace_concat,
          Bench.after_concat]
        cases s with
        | work => exact ahead.work run
        | _ => exact ⟨early, ahead.call_other run rfl own⟩

end Ahead

end Switchboard
