import Switchboard.Proofs.Device.Hearing
import Switchboard.Proofs.Device.RadioMembers
import Switchboard.Proofs.Device.RfAlike

/-!
A member of a run that begins anew, beside an instance that has hardware to itself. Whatever happens in the
run, the second goes on seeing what the first sees when it is told what the first hears.
-/

namespace Switchboard

/-- The jobs that wait, and those of them that an instance queued since a time at which `older` waited. Only
the latter can be for its table, and they are just when they are for the table that it has alone. -/
inductive Sifted (table lease table' lease' : Nat) :
    Nat → List (Waiting RadioJob) → List (Waiting RadioJob) → Prop
  | nil : Sifted table lease table' lease' 0 [] []
  | old {older : Nat} {w : Waiting RadioJob} {all own : List (Waiting RadioJob)} :
    w.job.table ≠ table → Sifted table lease table' lease' older all own →
      Sifted table lease table' lease' (older + 1) (w :: all) own
  | other {w : Waiting RadioJob} {all own : List (Waiting RadioJob)} :
    w.lease ≠ lease → w.job.table ≠ table → Sifted table lease table' lease' 0 all own →
      Sifted table lease table' lease' 0 (w :: all) own
  | own {w w' : Waiting RadioJob} {all own : List (Waiting RadioJob)} :
    w.lease = lease → w'.lease = lease' → w'.job = { w.job with table := w'.job.table } →
    (w.job.table = table ↔ w'.job.table = table') → Sifted table lease table' lease' 0 all own →
      Sifted table lease table' lease' 0 (w :: all) (w' :: own)

namespace Sifted

variable {table lease table' lease' older : Nat} {all own : List (Waiting RadioJob)}

/-- When an instance begins, all that waits is old. -/
theorem begin (all : List (Waiting RadioJob)) (apart : ∀ w ∈ all, w.job.table ≠ table) :
    Sifted table lease table' lease' all.length all [] := by
  induction all with
  | nil => exact .nil
  | cons w rest ih =>
      obtain ⟨first, later⟩ := List.forall_mem_cons.mp apart
      exact .old first (ih later)

theorem append (h : Sifted table lease table' lease' older all own) {more more' : List (Waiting RadioJob)}
    (new : Sifted table lease table' lease' 0 more more') :
    Sifted table lease table' lease' older (all ++ more) (own ++ more') := by
  induction h with
  | nil => exact new
  | old apart _ ih => exact .old apart ih
  | other apart apart' _ ih => exact .other apart apart' ih
  | own mine mine' same current _ ih => exact .own mine mine' same current ih

theorem of_own {jobs : List RadioJob} (current : ∀ job ∈ jobs, job.table = table) :
    Sifted table lease table' lease' 0 (jobs.map (Waiting.mk lease))
      ((jobs.map fun job => { job with table := table' }).map (Waiting.mk lease')) := by
  induction jobs with
  | nil => exact .nil
  | cons job rest ih =>
      obtain ⟨first, later⟩ := List.forall_mem_cons.mp current
      exact .own rfl rfl rfl (iff_of_true first rfl) (ih later)

theorem of_other {jobs : List RadioJob} {other : Nat} (apart : other ≠ lease)
    (apart' : ∀ job ∈ jobs, job.table ≠ table) :
    Sifted table lease table' lease' 0 (jobs.map (Waiting.mk other)) [] := by
  induction jobs with
  | nil => exact .nil
  | cons job rest ih =>
      obtain ⟨first, later⟩ := List.forall_mem_cons.mp apart'
      exact .other apart first (ih later)

/-- With new tables, nothing that waits is for the table in use any more. -/
theorem renew (h : Sifted table lease table' lease' older all own) {new new' : Nat}
    (lt : ∀ w ∈ all, w.job.table < new) (lt' : ∀ w ∈ own, w.job.table < new') :
    Sifted new lease new' lease' older all own := by
  induction h with
  | nil => exact .nil
  | old _ _ ih =>
      obtain ⟨first, later⟩ := List.forall_mem_cons.mp lt
      exact .old (Nat.ne_of_lt first) (ih later lt')
  | other apart _ _ ih =>
      obtain ⟨first, later⟩ := List.forall_mem_cons.mp lt
      exact .other apart (Nat.ne_of_lt first) (ih later lt')
  | own mine mine' same _ _ ih =>
      obtain ⟨first, later⟩ := List.forall_mem_cons.mp lt
      obtain ⟨first', later'⟩ := List.forall_mem_cons.mp lt'
      exact .own mine mine' same (iff_of_false (Nat.ne_of_lt first) (Nat.ne_of_lt first')) (ih later later')

end Sifted

/-- A member of a run some time after a reset, beside an instance that was started alone. -/
structure Renewed {R D : Type} (n older : Nat) (member : RfSwitch) (r : RadioRun R D) (x : Lone) :
    Prop where
  found : r.members[n]? = some member
  connection : member.connection = x.protocol.connection
  seed : member.seed = x.protocol.seed
  negotiator : member.negotiator = x.protocol.negotiator
  running : r.hardware.radioQueue.worker = .running ↔ x.hardware.radioQueue.worker = .running
  cancelled : r.hardware.radioQueue.isCancelled member.lease =
    x.hardware.radioQueue.isCancelled x.protocol.lease
  switches : member.switches r.hardware = x.switches
  table_lt : x.protocol.table < x.hardware.tables.length
  jobs_lt : ∀ w ∈ x.hardware.radioQueue.waiting, w.job.table < x.hardware.tables.length
  waiting : r.hardware.radioQueue.worker = .running →
    Sifted member.table member.lease x.protocol.table x.protocol.lease older
      r.hardware.radioQueue.waiting x.hardware.radioQueue.waiting

namespace Renewed

variable {R D : Type} [Radio R] {n older : Nat} {member : RfSwitch} {r : RadioRun R D} {x : Lone}

omit [Radio R] in
theorem table_lt' (d : Distinct r) (h : Renewed n older member r x) :
    member.table < r.hardware.tables.length :=
  d.member_table_lt h.found

omit [Radio R] in
theorem alike (d : Distinct r) (h : Renewed n older member r x) :
    RfSwitch.Alike member r.hardware x.protocol x.hardware := by
  have available : r.hardware.radioQueue.isAvailable = x.hardware.radioQueue.isAvailable := by
    rw [JobQueue.isAvailable, JobQueue.isAvailable, Bool.eq_iff_iff, beq_iff_eq, beq_iff_eq]
    exact h.running
  refine ⟨h.connection, h.seed, h.negotiator, ?_, h.switches, h.table_lt' d, h.table_lt⟩
  rw [RfSwitch.ready, RfSwitch.ready, JobQueue.leaseAvailable, JobQueue.leaseAvailable, h.cancelled,
    available]

theorem asked (d : Distinct r) (h : Renewed n older member r x) (p : Payload) :
    (member.process p r.hardware).1 = (x.protocol.process p x.hardware).1 ∧
      ∃ next, Renewed n older next (r.step (.request n p)) (x.hear (.asked p)) := by
  have together := (h.alike d).process p
  have bound := h.table_lt' d
  have there (next : RfSwitch) : (r.members.set n next)[n]? = some next :=
    List.getElem?_set_self (List.getElem?_eq_some_iff.mp h.found).1
  rw [RadioRun.step_request p h.found]
  simp only [Lone.hear]
  generalize member.process p r.hardware = a, x.protocol.process p x.hardware = b at together ⊢
  cases together with
  | told reply negotiator =>
      exact ⟨rfl, _, there _, h.connection, h.seed, rfl, h.running, h.cancelled, h.switches, h.table_lt,
        h.jobs_lt, h.waiting⟩
  | queued reply negotiator jobs own =>
      refine ⟨rfl, _, there _, h.connection, h.seed, rfl, h.running, h.cancelled, h.switches, h.table_lt,
        ?_, ?_⟩
      · intro w waits
        rcases List.mem_append.mp waits with old | new
        · exact h.jobs_lt w old
        · obtain ⟨job, mem, rfl⟩ := List.mem_map.mp new
          obtain ⟨_, _, rfl⟩ := List.mem_map.mp mem
          exact h.table_lt
      · intro running
        exact (h.waiting running).append (.of_own fun job mem => (own job mem).1)
  | wrote reply negotiator switches =>
      refine ⟨rfl, _, there _, h.connection, h.seed, rfl, h.running, h.cancelled, ?_, ?_, ?_, h.waiting⟩
      · exact (Hardware.table_setTable_self switches bound).trans
          (Hardware.table_setTable_self switches h.table_lt).symm
      · exact Nat.lt_of_lt_of_eq h.table_lt List.length_set.symm
      · intro w waits
        exact Nat.lt_of_lt_of_eq (h.jobs_lt w waits) List.length_set.symm
  | restarted reply switches =>
      -- On both sides the table is new, and what waits is for tables in use before.
      have length : (x.hardware.tables ++ [switches]).length = x.hardware.tables.length + 1 :=
        List.length_append
      refine ⟨rfl, _, there _, h.connection, h.seed, rfl, h.running, h.cancelled, ?_, ?_, ?_, ?_⟩
      · simp only [RfSwitch.switches, Lone.switches, Hardware.table, List.getElem?_concat_length]
      · exact Nat.lt_of_lt_of_eq (Nat.lt_succ_self _) length.symm
      · intro w waits
        exact Nat.lt_of_lt_of_eq (Nat.lt_succ_of_lt (h.jobs_lt w waits)) length.symm
      · intro running
        exact (h.waiting running).renew d.jobs_lt h.jobs_lt

/-- What another member asks for does not touch the table. -/
theorem asked_other (d : Distinct r) (h : Renewed n older member r x) {m : Nat} (apart : m ≠ n)
    (p : Payload) : Renewed n older member (r.step (.request m p)) x := by
  cases found : r.members[m]? with
  | none =>
      rw [RadioRun.step, found]
      exact h
  | some other =>
      have bound := d.member_table_lt found
      have tables : other.table ≠ member.table := apart_of_nodup_map d.tables h.found found apart
      have leases : other.lease ≠ member.lease := apart_of_nodup_map d.leases h.found found apart
      have there (next : RfSwitch) : (r.members.set m next)[n]? = some member :=
        (List.getElem?_set_ne apart).trans h.found
      -- What the other can do is read off its turn beside itself.
      obtain ⟨b, together⟩ : ∃ b, RfSwitch.Together other r.hardware other r.hardware
          (other.process p r.hardware) b := ⟨_, (RfSwitch.Alike.refl other bound).process p⟩
      rw [RadioRun.step_request p found]
      generalize other.process p r.hardware = a at together ⊢
      cases together with
      | told reply negotiator => exact { h with found := there _ }
      | queued reply negotiator jobs own =>
          refine { h with found := there _, waiting := ?_ }
          intro running
          have new : Sifted member.table member.lease x.protocol.table x.protocol.lease 0
              (jobs.map (Waiting.mk other.lease)) [] :=
            .of_other leases fun job mem => by
              rw [(own job mem).1]
              exact tables
          have waiting := (h.waiting running).append new
          rw [List.append_nil] at waiting
          exact waiting
      | wrote reply negotiator switches =>
          refine { h with found := there _, switches := ?_ }
          exact (Hardware.table_setTable_of_ne switches tables).trans h.switches
      | restarted reply switches =>
          refine { h with found := there _, switches := ?_ }
          rw [← h.switches, RfSwitch.switches, RfSwitch.switches, Hardware.table, Hardware.table,
            List.getElem?_append_left (h.table_lt' d)]

theorem joined (d : Distinct r) (h : Renewed n older member r x) (connection : String)
    (seed : List SwitchConfig) : Renewed n older member (r.step (.join connection seed)) x := by
  refine { h with found := ?_, switches := ?_ }
  · exact (List.getElem?_append_left (List.getElem?_eq_some_iff.mp h.found).1).trans h.found
  · rw [← h.switches, RfSwitch.switches, RfSwitch.switches, Hardware.table, Hardware.table]
    exact congrArg (Option.getD · []) (List.getElem?_append_left (h.table_lt' d))

theorem closed (h : Renewed n older member r x) :
    Renewed n older member (r.step (.close n)) (x.hear .closed) := by
  rw [RadioRun.step_close h.found]
  refine ⟨h.found, h.connection, h.seed, h.negotiator, ?_, ?_, h.switches, h.table_lt, ?_, ?_⟩
  · rw [Lone.hear, RfSwitch.close, RfSwitch.close, JobQueue.cancel_worker, JobQueue.cancel_worker]
    exact h.running
  · rw [Lone.hear, RfSwitch.close, RfSwitch.close, JobQueue.isCancelled_cancel,
      JobQueue.isCancelled_cancel, beq_self_eq_true, beq_self_eq_true, Bool.or_true, Bool.or_true]
  · rw [Lone.hear, RfSwitch.close, JobQueue.cancel_waiting]
    exact h.jobs_lt
  · rw [Lone.hear, RfSwitch.close, RfSwitch.close, JobQueue.cancel_worker, JobQueue.cancel_waiting,
      JobQueue.cancel_waiting]
    exact h.waiting

theorem closed_other (d : Distinct r) (h : Renewed n older member r x) {m : Nat} (apart : m ≠ n) :
    Renewed n older member (r.step (.close m)) x := by
  cases found : r.members[m]? with
  | none =>
      rw [RadioRun.step, found]
      exact h
  | some other =>
      have leases : (other.lease == member.lease) = false :=
        beq_eq_false_iff_ne.mpr (apart_of_nodup_map d.leases h.found found apart)
      rw [RadioRun.step_close found]
      refine { h with running := ?_, cancelled := ?_, waiting := ?_ }
      · rw [RfSwitch.close, JobQueue.cancel_worker]
        exact h.running
      · rw [RfSwitch.close, JobQueue.isCancelled_cancel, leases, Bool.or_false]
        exact h.cancelled
      · rw [RfSwitch.close, JobQueue.cancel_worker, JobQueue.cancel_waiting]
        exact h.waiting

omit [Radio R] in
theorem owns_iff (h : Renewed n older member r x) (entry : Waiting RadioJob) :
    r.owns n entry = true ↔ entry.lease = member.lease := by
  rw [RadioRun.owns, h.found, Option.any_some, beq_iff_eq, eq_comm]

section worker

variable {entry : Waiting RadioJob} {rest : List (Waiting RadioJob)}

omit [Radio R] in
/-- The worker drops a job that the instance does not have. -/
theorem passed_over (h : Renewed n older member r x) {left : Nat}
    (sifted : Sifted member.table member.lease x.protocol.table x.protocol.lease left rest
      x.hardware.radioQueue.waiting) (log : List RadioEvent) :
    Renewed n left member { r with hardware := r.hardware.taking rest, log } x :=
  { h with waiting := fun _ => sifted }

omit [Radio R] in
/-- A job ran, and where it crashed, both workers ended. -/
theorem ran (h : Renewed n older member r x) {left : Nat} {outcome : Transmission}
    {queue queue' : JobQueue RadioJob} {hardware : Hardware R D} {hardware' : Hardware ToldRadio Unit}
    (queued : hardware.radioQueue = if outcome = .crashed then queue.crash else queue)
    (queued' : hardware'.radioQueue = if outcome = .crashed then queue'.crash else queue')
    (running : queue.worker = .running ↔ queue'.worker = .running)
    (cancelled : queue.isCancelled member.lease = queue'.isCancelled x.protocol.lease)
    (switches : member.switches hardware = x.protocol.switches hardware')
    (length : hardware'.tables.length = x.hardware.tables.length)
    (jobs_lt : ∀ w ∈ queue'.waiting, w.job.table < x.hardware.tables.length)
    (sifted : Sifted member.table member.lease x.protocol.table x.protocol.lease left queue.waiting
      queue'.waiting) (log : List RadioEvent) :
    Renewed n left member { r with hardware, log } { x with hardware := hardware' } := by
  have table_lt := Nat.lt_of_lt_of_eq h.table_lt length.symm
  split at queued
  case isTrue crashed =>
    rw [if_pos crashed] at queued'
    refine ⟨h.found, h.connection, h.seed, h.negotiator, ?_, ?_, switches, table_lt, ?_, ?_⟩
    · rw [queued, queued']
      exact iff_of_false nofun nofun
    · rw [queued, queued']
      exact cancelled
    · rw [queued']
      exact nofun
    · rw [queued]
      exact nofun
  case isFalse alive =>
    rw [if_neg alive] at queued'
    refine ⟨h.found, h.connection, h.seed, h.negotiator, ?_, ?_, switches, table_lt, ?_, ?_⟩
    · rw [queued, queued']
      exact running
    · rw [queued, queued']
      exact cancelled
    · rw [queued', length]
      exact jobs_lt
    · rw [queued, queued']
      exact fun _ => sifted

/-- The worker runs a job that the instance does not have. -/
theorem passed (h : Renewed n older member r x) {left : Nat} (apart : entry.job.table ≠ member.table)
    (sifted : Sifted member.table member.lease x.protocol.table x.protocol.lease left rest
      x.hardware.radioQueue.waiting) (log : List RadioEvent) :
    Renewed n left member { r with hardware := (r.hardware.taking rest).runRadio entry.job, log }
      (Lone.machine.after x
        (if (Radio.transmit r.hardware.radio entry.job.code).1 = .crashed then some Heard.lost
        else none).toList) := by
  have switches : member.switches ((r.hardware.taking rest).runRadio entry.job) = x.switches :=
    (Hardware.table_runRadio_of_ne apart).trans h.switches
  have queued := Hardware.runRadio_radioQueue (r.hardware.taking rest) entry.job
  have passing {hardware : Hardware ToldRadio Unit}
      (queued' : hardware.radioQueue =
        if (Radio.transmit r.hardware.radio entry.job.code).1 = .crashed then x.hardware.radioQueue.crash
        else x.hardware.radioQueue)
      (tables : hardware.tables = x.hardware.tables) :
      Renewed n left member { r with hardware := (r.hardware.taking rest).runRadio entry.job, log }
        { x with hardware } := by
    refine h.ran queued queued' h.running h.cancelled ?_ (congrArg List.length tables) h.jobs_lt sifted log
    rw [switches, RfSwitch.switches, Hardware.table, tables]
    rfl
  split
  case isTrue crashed => exact passing (if_pos crashed).symm rfl
  case isFalse alive => exact passing (if_neg alive).symm rfl

variable {w : Waiting RadioJob} {own : List (Waiting RadioJob)}

omit [Radio R] in
/-- The worker drops a job that the instance has as well. -/
theorem dropped (h : Renewed n older member r x) (running : r.hardware.radioQueue.worker = .running)
    (waiting : x.hardware.radioQueue.waiting = w :: own) (mine : entry.lease = member.lease)
    (mine' : w.lease = x.protocol.lease)
    (cancelled : r.hardware.radioQueue.isCancelled entry.lease = true)
    (sifted : Sifted member.table member.lease x.protocol.table x.protocol.lease 0 rest own)
    (log : List RadioEvent) :
    Renewed n 0 member { r with hardware := r.hardware.taking rest, log } (x.hear .dropped) := by
  have step : x.hardware.stepRadio = x.hardware.taking own := by
    rw [Hardware.stepRadio_of_cons (h.running.mp running) waiting, mine', ← h.cancelled, ← mine,
      if_pos cancelled]
  rw [Lone.hear, step]
  refine { h with jobs_lt := ?_, waiting := fun _ => sifted }
  intro w' waits
  exact h.jobs_lt w' (waiting ▸ List.mem_cons_of_mem _ waits)

/-- The same transmission with the same outcome leaves the same switches. -/
theorem switches_made (d : Distinct r) (h : Renewed n older member r x) (rest own : List (Waiting RadioJob))
    (same : w.job = { entry.job with table := w.job.table })
    (current : entry.job.table = member.table ↔ w.job.table = x.protocol.table) :
    member.switches ((r.hardware.taking rest).runRadio entry.job) =
      x.protocol.switches
        (((x.told (Radio.transmit r.hardware.radio entry.job.code).1).taking own).runRadio w.job) := by
  by_cases here : entry.job.table = member.table
  · have here' := current.mp here
    have before : r.hardware.table entry.job.table = x.hardware.table w.job.table := by
      rw [here, here']
      exact h.switches
    rw [RfSwitch.switches, RfSwitch.switches, ← here, ← here',
      Hardware.table_runRadio_self (here ▸ h.table_lt' d), Hardware.table_runRadio_self (here' ▸ h.table_lt)]
    change (if _ then Switch.record _ _ (r.hardware.table _) else r.hardware.table _) =
      if _ then Switch.record _ _ (x.hardware.table _) else x.hardware.table _
    rw [before, same]
    rfl
  · have there : w.job.table ≠ x.protocol.table := fun here' => here (current.mpr here')
    have kept : x.protocol.switches
        (((x.told (Radio.transmit r.hardware.radio entry.job.code).1).taking own).runRadio w.job) =
        x.switches := Hardware.table_runRadio_of_ne there
    exact (Hardware.table_runRadio_of_ne here).trans (h.switches.trans kept.symm)

/-- The worker runs a job that the instance has as well. -/
theorem made (d : Distinct r) (h : Renewed n older member r x)
    (running : r.hardware.radioQueue.worker = .running)
    (waiting : x.hardware.radioQueue.waiting = w :: own) (mine : entry.lease = member.lease)
    (mine' : w.lease = x.protocol.lease)
    (live : ¬r.hardware.radioQueue.isCancelled entry.lease = true)
    (same : w.job = { entry.job with table := w.job.table })
    (current : entry.job.table = member.table ↔ w.job.table = x.protocol.table)
    (sifted : Sifted member.table member.lease x.protocol.table x.protocol.lease 0 rest own)
    (log : List RadioEvent) :
    Renewed n 0 member { r with hardware := (r.hardware.taking rest).runRadio entry.job, log }
      (x.hear (.made (Radio.transmit r.hardware.radio entry.job.code).1)) := by
  have switches := h.switches_made d rest own same current
  generalize outcome : (Radio.transmit r.hardware.radio entry.job.code).1 = o at switches ⊢
  have running' : (x.told o).radioQueue.worker = .running := h.running.mp running
  have waiting' : (x.told o).radioQueue.waiting = w :: own := waiting
  have live' : ¬(x.told o).radioQueue.isCancelled w.lease = true := by
    rw [mine', Lone.told, ← h.cancelled, ← mine]
    exact live
  have step : (x.told o).stepRadio = ((x.told o).taking own).runRadio w.job := by
    rw [Hardware.stepRadio_of_cons running' waiting', if_neg live']
  have queued : ((r.hardware.taking rest).runRadio entry.job).radioQueue =
      if o = .crashed then (r.hardware.taking rest).radioQueue.crash
      else (r.hardware.taking rest).radioQueue := by
    rw [← outcome]
    exact Hardware.runRadio_radioQueue _ _
  have queued' := Hardware.runRadio_radioQueue ((x.told o).taking own) w.job
  rw [Lone.hear, step]
  refine h.ran queued queued' h.running h.cancelled switches (Hardware.length_tables_runRadio _ _) ?_ sifted
    log
  intro w' waits
  exact h.jobs_lt w' (waiting ▸ List.mem_cons_of_mem _ waits)

end worker

theorem worked (d : Distinct r) (h : Renewed n older member r x) :
    Renewed n (older - 1) member (r.step .work)
      (Lone.machine.after x (Renewal.hears n ⟨r, older⟩ .work).toList) := by
  -- The first job that waits is an old one, another's or one that the instance has as well.
  have worked := RadioRun.worked r.hardware
  rw [RadioRun.step, Renewal.hears]
  generalize RadioRun.nextTake r.hardware = e, r.hardware.stepRadio = next at worked
  cases worked with
  | idle nothing =>
      refine { h with waiting := ?_ }
      intro running
      have waiting := h.waiting running
      rw [nothing running] at waiting ⊢
      change Sifted _ _ _ _ _ _ x.hardware.radioQueue.waiting
      generalize x.hardware.radioQueue.waiting = own at waiting
      cases waiting
      exact .nil
  | @skipped entry rest running waiting cancelled =>
      have sifted := h.waiting running
      rw [waiting] at sifted
      generalize waiting' : x.hardware.radioQueue.waiting = own at sifted
      rw [RadioEvent.heard]
      cases sifted with
      | old apart later =>
          rw [if_neg (by simp)]
          exact h.passed_over (waiting' ▸ later) _
      | other apart _ later =>
          rw [if_neg (by simp [h.owns_iff, apart])]
          exact h.passed_over (waiting' ▸ later) _
      | own mine mine' _ _ later =>
          rw [if_pos (by simp [h.owns_iff, mine])]
          exact h.dropped running waiting' mine mine' cancelled later _
  | @ran entry rest running waiting live =>
      have sifted := h.waiting running
      rw [waiting] at sifted
      generalize waiting' : x.hardware.radioQueue.waiting = own at sifted
      rw [RadioEvent.heard]
      cases sifted with
      | old apart later =>
          rw [if_neg (by simp)]
          exact h.passed apart (waiting' ▸ later) _
      | other apart apart' later =>
          rw [if_neg (by simp [h.owns_iff, apart])]
          exact h.passed apart' (waiting' ▸ later) _
      | own mine mine' same current later =>
          rw [if_pos (by simp [h.owns_iff, mine])]
          exact h.made d running waiting' mine mine' live same current later _

/-- How a run goes on beside an instance that was started alone. -/
def Follows (n : Nat) (v : Renewal R D) (x : Lone) : Prop :=
  Distinct v.run ∧ ∃ member, Renewed n v.older member v.run x

theorem matched (v : Renewal R D) (x : Lone) (s : RadioStep) (follows : Follows n v x) :
    (Renewal.machine n).Matched Lone.machine (Renewal.hears n) (Follows n) v x s := by
  obtain ⟨d, member, h⟩ := follows
  have distinct : Distinct ((Renewal.machine n).step v s).run := d.step s
  cases s with
  | join connection seed => exact ⟨rfl, distinct, member, h.joined d connection seed⟩
  | request m p =>
      by_cases same : m = n
      · subst same
        obtain ⟨reply, next, renewed⟩ := h.asked d p
        have replies : v.run.reply? m (.request m p) = some (member.process p v.run.hardware).1 := by
          rw [RadioRun.reply?, if_pos rfl, h.found, Option.map_some]
        exact .noticed (if_pos rfl) (replies.trans (congrArg some reply)) ⟨distinct, next, renewed⟩
      · exact .unnoticed (if_neg same) (if_neg same) ⟨distinct, member, h.asked_other d same p⟩
  | close m =>
      by_cases same : m = n
      · subst same
        exact .noticed (if_pos rfl) rfl ⟨distinct, member, h.closed⟩
      · exact .unnoticed (if_neg same) rfl ⟨distinct, member, h.closed_other d same⟩
  | work => exact ⟨(x.replies_heard _ _).symm, distinct, member, h.worked d⟩

end Renewed

end Switchboard
