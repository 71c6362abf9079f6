import Switchboard.Proofs.Device.RfTurns
import Switchboard.Proofs.Hardware.RadioJobs
import Switchboard.Proofs.Hardware.Share

/-!
A radio that connections share, beside the one that a single connection would have for itself. The tables,
leases and jobs of that connection are found on both, in the same order; what the others hold is only on the
shared radio. The connection's own steps change both alike, and those of the others only the shared one.
-/

namespace Switchboard

/-- The tables and the leases of a connection among those of all. -/
structure Numbering where
  tables : Share
  leases : Share

namespace Numbering

structure Grown (k k' : Numbering) : Prop where
  tables : Share.Grown k.tables k'.tables
  leases : Share.Grown k.leases k'.leases

theorem Grown.refl (k : Numbering) : k.Grown k :=
  ⟨.refl _, .refl _⟩

theorem Grown.trans {k k' k'' : Numbering} (h : k.Grown k') (h' : k'.Grown k'') : k.Grown k'' :=
  ⟨h.tables.trans h'.tables, h.leases.trans h'.leases⟩

variable (owner : String) (k : Numbering)

/-- A job of the owner, as it waits on the shared radio and on its own. -/
structure SameJob (w w' : Waiting RadioJob) : Prop where
  owned : w.job.connection = owner
  lease : k.leases.Holds w'.lease w.lease
  table : k.tables.Holds w'.job.table w.job.table
  job : w'.job = { w.job with table := w'.job.table }

/-- The jobs of the owner wait in the same order; those of others wait between them. -/
inductive Queues : List (Waiting RadioJob) → List (Waiting RadioJob) → Prop
  | nil : Queues [] []
  | own {w w' : Waiting RadioJob} {all own : List (Waiting RadioJob)} :
    SameJob owner k w w' → Queues all own → Queues (w :: all) (w' :: own)
  | other {w : Waiting RadioJob} {all own : List (Waiting RadioJob)} :
    w.job.connection ≠ owner → k.tables.Foreign w.job.table → Queues all own → Queues (w :: all) own

variable {owner} {k} {k' : Numbering}

theorem Queues.grown {all own : List (Waiting RadioJob)} (h : Queues owner k all own)
    (grown : k.Grown k') : Queues owner k' all own := by
  induction h with
  | nil => exact .nil
  | own same _ ih =>
      exact .own ⟨same.owned, same.lease.grown grown.leases, same.table.grown grown.tables, same.job⟩ ih
  | other apart foreign _ ih => exact .other apart (foreign.grown grown.tables) ih

theorem Queues.append {all own all' own' : List (Waiting RadioJob)} (h : Queues owner k all own)
    (h' : Queues owner k all' own') : Queues owner k (all ++ all') (own ++ own') := by
  induction h with
  | nil => exact h'
  | own same _ ih => exact .own same ih
  | other apart foreign _ ih => exact .other apart foreign ih

theorem queues_own {jobs : List RadioJob} {lease lease' table table' : Nat}
    (holds : k.leases.Holds lease' lease) (holdsTable : k.tables.Holds table' table)
    (owned : ∀ job ∈ jobs, job.table = table ∧ job.connection = owner) :
    Queues owner k (jobs.map (Waiting.mk lease))
      ((jobs.map fun job => { job with table := table' }).map (Waiting.mk lease')) := by
  induction jobs with
  | nil => exact .nil
  | cons job rest ih =>
      obtain ⟨⟨rfl, mine⟩, later⟩ := List.forall_mem_cons.mp owned
      exact .own ⟨mine, holds, holdsTable, rfl⟩ (ih later)

theorem queues_other {jobs : List RadioJob} {table : Nat} (foreign : k.tables.Foreign table) (lease : Nat)
    (others : ∀ job ∈ jobs, job.table = table ∧ job.connection ≠ owner) :
    Queues owner k (jobs.map (Waiting.mk lease)) [] := by
  induction jobs with
  | nil => exact .nil
  | cons job rest ih =>
      obtain ⟨⟨rfl, apart⟩, later⟩ := List.forall_mem_cons.mp others
      exact .other apart foreign (ih later)

end Numbering

/-- Leases given out by a queue, and by the queue that a connection would have alone. -/
structure Leased {J : Type} (s : Share) (all own : JobQueue J) : Prop where
  given : all.nextLease = s.given
  held : own.nextLease = s.numbers.length
  cancelled : ∀ n m, s.Holds n m → own.isCancelled n = all.isCancelled m
  /-- Only what was given out is cancelled. -/
  old : ∀ lease, all.isCancelled lease = true → lease < all.nextLease
  old' : ∀ lease, own.isCancelled lease = true → lease < own.nextLease

namespace Leased

variable {J : Type} {s : Share} {all own : JobQueue J}

theorem refl {q : JobQueue J} (fresh : q.cancelled = []) : Leased (.all q.nextLease) q q := by
  have never (lease : Nat) : ¬q.isCancelled lease = true := by
    rw [JobQueue.isCancelled, fresh]
    intro cancelled
    cases cancelled
  refine ⟨rfl, List.length_range.symm, ?_, ?_, ?_⟩
  · intro n m holds
    rw [holds.eq_of_all]
  · intro lease cancelled
    exact absurd cancelled (never lease)
  · intro lease cancelled
    exact absurd cancelled (never lease)

theorem gain (h : Leased s all own) : Leased s.gain all.lease.2 own.lease.2 := by
  refine ⟨congrArg Nat.succ h.given, ?_, ?_, ?_, ?_⟩
  · rw [Share.gain, List.length_append, ← h.held]
    rfl
  · intro n m holds
    rcases holds.of_gain with known | ⟨rfl, rfl⟩
    · exact h.cancelled n m known
    · have fresh : all.isCancelled s.given = false := by
        rw [← Bool.not_eq_true]
        intro cancelled
        exact Nat.ne_of_lt (h.old _ cancelled) h.given.symm
      have fresh' : own.isCancelled s.numbers.length = false := by
        rw [← Bool.not_eq_true]
        intro cancelled
        exact Nat.ne_of_lt (h.old' _ cancelled) h.held.symm
      exact fresh'.trans fresh.symm
  · intro lease cancelled
    exact Nat.lt_succ_of_lt (h.old lease cancelled)
  · intro lease cancelled
    exact Nat.lt_succ_of_lt (h.old' lease cancelled)

/-- It does not matter what waits. -/
theorem requeue (h : Leased s all own) (waiting waiting' : List (Waiting J)) (queued queued' : Nat) :
    Leased s { all with waiting, queued } { own with waiting := waiting', queued := queued' } :=
  ⟨h.given, h.held, h.cancelled, h.old, h.old'⟩

theorem pass (h : Leased s all own) : Leased s.pass all.lease.2 own := by
  refine ⟨congrArg Nat.succ h.given, h.held, h.cancelled, ?_, h.old'⟩
  intro lease cancelled
  exact Nat.lt_succ_of_lt (h.old lease cancelled)

theorem lt_of_cancel {q : JobQueue J} {lease : Nat} (old : ∀ n, q.isCancelled n = true → n < q.nextLease)
    (bound : lease < q.nextLease) (n : Nat) (cancelled : (q.cancel lease).isCancelled n = true) :
    n < (q.cancel lease).nextLease := by
  rw [JobQueue.cancel_nextLease]
  rw [JobQueue.isCancelled_cancel, Bool.or_eq_true] at cancelled
  rcases cancelled with before | now
  · exact old n before
  · rw [← beq_iff_eq.mp now]
    exact bound

theorem cancel (h : Leased s all own) {n m : Nat} (holds : s.Holds n m) :
    Leased s (all.cancel m) (own.cancel n) := by
  refine ⟨?_, ?_, ?_, ?_, ?_⟩
  · rw [JobQueue.cancel_nextLease, h.given]
  · rw [JobQueue.cancel_nextLease, h.held]
  · intro n' m' holds'
    have same : n = n' ↔ m = m' := by
      constructor
      · rintro rfl
        exact holds.det holds'
      · rintro rfl
        exact holds.inj holds'
    rw [JobQueue.isCancelled_cancel, JobQueue.isCancelled_cancel, h.cancelled n' m' holds',
      Bool.eq_iff_iff.mpr (beq_iff_eq.trans (same.trans beq_iff_eq.symm))]
  · exact lt_of_cancel h.old (Nat.lt_of_lt_of_eq holds.lt h.given.symm)
  · exact lt_of_cancel h.old' (Nat.lt_of_lt_of_eq holds.length_lt h.held.symm)

theorem cancel_foreign (h : Leased s all own) {m : Nat} (foreign : s.Foreign m) :
    Leased s (all.cancel m) own := by
  refine ⟨?_, h.held, ?_, ?_, h.old'⟩
  · rw [JobQueue.cancel_nextLease, h.given]
  · intro n' m' holds'
    have apart : (m == m') = false := beq_eq_false_iff_ne.mpr (foreign.ne holds')
    rw [JobQueue.isCancelled_cancel, apart, Bool.or_false, h.cancelled n' m' holds']
  · exact lt_of_cancel h.old (Nat.lt_of_lt_of_eq foreign.1 h.given.symm)

end Leased

/-- What is for another is not for the owner. -/
theorem filter_concat_of_ne {α : Type} {owner connection : String} (apart : connection ≠ owner)
    (entries : List (String × α)) (x : α) :
    (entries ++ [(connection, x)]).filter (·.1 == owner) = entries.filter (·.1 == owner) := by
  have other : [(connection, x)].filter (·.1 == owner) = [] := by
    refine List.filter_eq_nil_iff.mpr ?_
    intro entry mem
    rw [List.mem_singleton.mp mem, beq_iff_eq]
    exact apart
  rw [List.filter_append, other, List.append_nil]

/-- The hardware that all share, and the hardware that the owner would have alone. -/
structure Mirrors {R D : Type} (owner : String) (k : Numbering) (h v : Hardware R D) : Prop where
  worker : h.radioQueue.worker = v.radioQueue.worker
  tables : k.tables.Copied h.tables v.tables
  leases : Leased k.leases h.radioQueue v.radioQueue
  waiting : k.Queues owner h.radioQueue.waiting v.radioQueue.waiting
  outbox : h.outbox.filter (·.1 == owner) = v.outbox.filter (·.1 == owner)
  /-- The owner does not use the dongle. -/
  commands : ∀ w ∈ h.dongleQueue.waiting, w.job.connection ≠ owner
  idle : v.dongleQueue.waiting = []

/-- A change that does not touch the radio, the tables and what the owner is told. -/
structure Aside {R D : Type} (owner : String) (h h' : Hardware R D) : Prop where
  radioQueue : h'.radioQueue = h.radioQueue
  tables : h'.tables = h.tables
  outbox : h'.outbox.filter (·.1 == owner) = h.outbox.filter (·.1 == owner)
  commands : ∀ w ∈ h'.dongleQueue.waiting, w ∈ h.dongleQueue.waiting ∨ w.job.connection ≠ owner

namespace Aside

variable {R D : Type} {owner : String} {h h' h'' : Hardware R D}

theorem refl (h : Hardware R D) : Aside owner h h :=
  ⟨rfl, rfl, rfl, fun _ mem => .inl mem⟩

theorem trans (a : Aside owner h h') (b : Aside owner h' h'') : Aside owner h h'' := by
  refine ⟨b.radioQueue.trans a.radioQueue, b.tables.trans a.tables, b.outbox.trans a.outbox, ?_⟩
  intro w mem
  rcases b.commands w mem with old | apart
  · exact a.commands w old
  · exact .inr apart

theorem emit {connection : String} (apart : connection ≠ owner) (h : Hardware R D) (p : Payload) :
    Aside owner h (h.emit connection p) :=
  ⟨rfl, rfl, filter_concat_of_ne apart h.outbox p, fun _ mem => .inl mem⟩

theorem emitAll {α : Type} {connection : String} (apart : connection ≠ owner) (report : α → Payload)
    (events : List α) (h : Hardware R D) :
    Aside owner h (events.foldl (fun h event => h.emit connection (report event)) h) := by
  induction events generalizing h with
  | nil => exact refl h
  | cons event rest ih => exact (emit apart h _).trans (ih _)

theorem setCache (h : Hardware R D) (n : Nat) (devices : List NetworkDevice) :
    Aside owner h (h.setCache n devices) :=
  ⟨rfl, rfl, rfl, fun _ mem => .inl mem⟩

theorem runDongle [Dongle D] {job : DongleJob} (apart : job.connection ≠ owner) (h : Hardware R D) :
    Aside owner h (h.runDongle job) := by
  refine trans ?_ (emitAll apart _ _ _)
  refine trans ?_ (emit apart _ _)
  split
  · exact ⟨rfl, rfl, rfl, fun _ mem => .inl mem⟩
  · exact ⟨rfl, rfl, rfl, fun _ mem => .inl mem⟩

theorem takeDongle {job : Option DongleJob} {dongleQueue : JobQueue DongleJob}
    (taken : h.dongleQueue.take? = some (job, dongleQueue)) : Aside owner h { h with dongleQueue } := by
  obtain ⟨w, waiting, _⟩ := JobQueue.waiting_of_take? taken
  refine ⟨rfl, rfl, rfl, ?_⟩
  intro w' mem
  rw [waiting]
  exact .inl (List.mem_cons_of_mem _ mem)

theorem stepDongle [Dongle D] (others : ∀ w ∈ h.dongleQueue.waiting, w.job.connection ≠ owner) :
    Aside owner h h.stepDongle := by
  rw [Hardware.stepDongle]
  split
  · exact refl h
  · next taken => exact takeDongle taken
  · next taken =>
      refine (takeDongle taken).trans (runDongle ?_ _)
      obtain ⟨w, waiting, nothing | same⟩ := JobQueue.waiting_of_take? taken
      · cases nothing
      · cases same
        exact others w (waiting ▸ List.mem_cons_self)

end Aside

namespace Mirrors

variable {R D : Type} {owner : String} {k : Numbering} {h v h' : Hardware R D}

/-- Hardware at which nobody has waited or left yet. -/
theorem refl (owner : String) (waiting : h.radioQueue.waiting = []) (fresh : h.radioQueue.cancelled = [])
    (idle : h.dongleQueue.waiting = []) :
    Mirrors owner ⟨.all h.tables.length, .all h.radioQueue.nextLease⟩ h h := by
  refine ⟨rfl, .refl h.tables, .refl fresh, ?_, rfl, ?_, idle⟩
  · rw [waiting]
    exact .nil
  · rw [idle]
    intro w mem
    cases mem

theorem aside (m : Mirrors owner k h v) (a : Aside owner h h') : Mirrors owner k h' v := by
  refine ⟨?_, ?_, ?_, ?_, a.outbox.trans m.outbox, ?_, m.idle⟩
  · rw [a.radioQueue, m.worker]
  · rw [a.tables]
    exact m.tables
  · rw [a.radioQueue]
    exact m.leases
  · rw [a.radioQueue]
    exact m.waiting
  · intro w mem
    rcases a.commands w mem with old | apart
    · exact m.commands w old
    · exact apart

theorem setTable (m : Mirrors owner k h v) {table table' : Nat} (holds : k.tables.Holds table' table)
    (switches : List Switch) :
    Mirrors owner k (h.setTable table switches) (v.setTable table' switches) :=
  ⟨m.worker, m.tables.set holds switches, m.leases, m.waiting, m.outbox, m.commands, m.idle⟩

theorem setTable_foreign (m : Mirrors owner k h v) {table : Nat} (foreign : k.tables.Foreign table)
    (switches : List Switch) : Mirrors owner k (h.setTable table switches) v :=
  ⟨m.worker, m.tables.set_foreign foreign switches, m.leases, m.waiting, m.outbox, m.commands, m.idle⟩

theorem newTable (m : Mirrors owner k h v) (switches : List Switch) :
    Mirrors owner { k with tables := k.tables.gain } { h with tables := h.tables ++ [switches] }
      { v with tables := v.tables ++ [switches] } :=
  ⟨m.worker, m.tables.gain switches, m.leases, m.waiting.grown ⟨.gain (.refl _), .refl _⟩, m.outbox,
    m.commands, m.idle⟩

theorem newTable_foreign (m : Mirrors owner k h v) (switches : List Switch) :
    Mirrors owner { k with tables := k.tables.pass } { h with tables := h.tables ++ [switches] } v :=
  ⟨m.worker, m.tables.pass switches, m.leases, m.waiting.grown ⟨.pass (.refl _), .refl _⟩, m.outbox,
    m.commands, m.idle⟩

theorem lease (m : Mirrors owner k h v) :
    Mirrors owner { k with leases := k.leases.gain } { h with radioQueue := h.radioQueue.lease.2 }
      { v with radioQueue := v.radioQueue.lease.2 } :=
  ⟨m.worker, m.tables, m.leases.gain, m.waiting.grown ⟨.refl _, .gain (.refl _)⟩, m.outbox, m.commands,
    m.idle⟩

theorem lease_foreign (m : Mirrors owner k h v) :
    Mirrors owner { k with leases := k.leases.pass } { h with radioQueue := h.radioQueue.lease.2 } v :=
  ⟨m.worker, m.tables, m.leases.pass, m.waiting.grown ⟨.refl _, .pass (.refl _)⟩, m.outbox, m.commands,
    m.idle⟩

theorem cancel (m : Mirrors owner k h v) {lease lease' : Nat} (holds : k.leases.Holds lease' lease) :
    Mirrors owner k { h with radioQueue := h.radioQueue.cancel lease }
      { v with radioQueue := v.radioQueue.cancel lease' } := by
  refine ⟨?_, m.tables, m.leases.cancel holds, ?_, m.outbox, m.commands, m.idle⟩
  · rw [JobQueue.cancel_worker, JobQueue.cancel_worker, m.worker]
  · rw [JobQueue.cancel_waiting, JobQueue.cancel_waiting]
    exact m.waiting

theorem cancel_foreign (m : Mirrors owner k h v) {lease : Nat} (foreign : k.leases.Foreign lease) :
    Mirrors owner k { h with radioQueue := h.radioQueue.cancel lease } v := by
  refine ⟨?_, m.tables, m.leases.cancel_foreign foreign, ?_, m.outbox, m.commands, m.idle⟩
  · rw [JobQueue.cancel_worker, m.worker]
  · rw [JobQueue.cancel_waiting]
    exact m.waiting

theorem queueing (m : Mirrors owner k h v) {lease lease' : Nat} {jobs jobs' : List RadioJob}
    (queues : k.Queues owner (jobs.map (Waiting.mk lease)) (jobs'.map (Waiting.mk lease'))) :
    Mirrors owner k (h.queueing lease jobs) (v.queueing lease' jobs') :=
  ⟨m.worker, m.tables, m.leases.requeue _ _ _ _, m.waiting.append queues, m.outbox, m.commands, m.idle⟩

theorem queueing_foreign (m : Mirrors owner k h v) {lease : Nat} {jobs : List RadioJob}
    (queues : k.Queues owner (jobs.map (Waiting.mk lease)) []) :
    Mirrors owner k (h.queueing lease jobs) v := by
  have waiting := m.waiting.append queues
  rw [List.append_nil] at waiting
  exact ⟨m.worker, m.tables, m.leases.requeue _ _ _ _, waiting, m.outbox, m.commands, m.idle⟩

theorem table_eq (m : Mirrors owner k h v) {table table' : Nat} (holds : k.tables.Holds table' table) :
    h.table table = v.table table' := by
  rw [Hardware.table, Hardware.table, m.tables.same _ _ holds]

variable [Radio R]

/-- The same transmission with the same outcome on both. -/
theorem runRadio (m : Mirrors owner k h v) {w w' : Waiting RadioJob} (same : k.SameJob owner w w')
    (alike : (Radio.transmit h.radio w.job.code).1 = (Radio.transmit v.radio w'.job.code).1)
    (alive : (Radio.transmit h.radio w.job.code).1 ≠ .crashed) :
    Mirrors owner k (h.runRadio w.job) (v.runRadio w'.job) := by
  obtain ⟨queue, outbox⟩ := Hardware.runRadio_of_alive w.job alive
  obtain ⟨queue', outbox'⟩ := Hardware.runRadio_of_alive w'.job (alike ▸ alive)
  refine ⟨?_, ?_, ?_, ?_, ?_, ?_, ?_⟩
  · rw [queue, queue']
    exact m.worker
  · rw [Hardware.runRadio_tables, Hardware.runRadio_tables, ← alike]
    split
    · rw [m.table_eq same.table, same.job]
      exact m.tables.set same.table _
    · exact m.tables
  · rw [queue, queue']
    exact m.leases
  · rw [queue, queue']
    exact m.waiting
  · rw [outbox, outbox', List.filter_append, List.filter_append, m.outbox, ← alike, same.job]
    rfl
  · rw [Hardware.runRadio_dongleQueue]
    exact m.commands
  · rw [Hardware.runRadio_dongleQueue]
    exact m.idle

theorem runRadio_foreign (m : Mirrors owner k h v) {job : RadioJob} (apart : job.connection ≠ owner)
    (foreign : k.tables.Foreign job.table)
    (alive : (Radio.transmit h.radio job.code).1 ≠ .crashed) : Mirrors owner k (h.runRadio job) v := by
  obtain ⟨queue, outbox⟩ := Hardware.runRadio_of_alive job alive
  refine ⟨?_, ?_, ?_, ?_, ?_, ?_, m.idle⟩
  · rw [queue, m.worker]
  · rw [Hardware.runRadio_tables]
    split
    · exact m.tables.set_foreign foreign _
    · exact m.tables
  · rw [queue]
    exact m.leases
  · rw [queue]
    exact m.waiting
  · rw [outbox]
    exact ((Aside.emit apart h _).outbox).trans m.outbox
  · rw [Hardware.runRadio_dongleQueue]
    exact m.commands

omit [Radio R] in
theorem taking (m : Mirrors owner k h v) {all own : List (Waiting RadioJob)}
    (queues : k.Queues owner all own) : Mirrors owner k (h.taking all) (v.taking own) :=
  ⟨m.worker, m.tables, m.leases.requeue _ _ _ _, queues, m.outbox, m.commands, m.idle⟩

omit [Radio R] in
theorem taking_foreign (m : Mirrors owner k h v) {all : List (Waiting RadioJob)}
    (queues : k.Queues owner all v.radioQueue.waiting) : Mirrors owner k (h.taking all) v :=
  ⟨m.worker, m.tables, m.leases.requeue _ _ _ _, queues, m.outbox, m.commands, m.idle⟩

section worker

variable (steady : ∀ (radio : R) code, (Radio.transmit radio code).1 ≠ .crashed)
include steady

/-- The worker of the shared radio takes a job of another. -/
theorem stepRadio_foreign (m : Mirrors owner k h v) {w : Waiting RadioJob} {all : List (Waiting RadioJob)}
    (first : h.radioQueue.waiting = w :: all) (apart : w.job.connection ≠ owner)
    (foreign : k.tables.Foreign w.job.table) (rest : k.Queues owner all v.radioQueue.waiting)
    (running : h.radioQueue.worker = .running) : Mirrors owner k h.stepRadio v := by
  rw [Hardware.stepRadio_of_cons running first]
  split
  case isTrue => exact m.taking_foreign rest
  case isFalse => exact (m.taking_foreign rest).runRadio_foreign apart foreign (steady _ _)

/-- The worker of the shared radio does something for another. -/
theorem work_other (m : Mirrors owner k h v)
    (other : (h.radioQueue.waiting.head?.all fun w => w.job.connection == owner) = false) :
    Mirrors owner k h.stepRadio v := by
  by_cases running : h.radioQueue.worker = .running
  · have queues := m.waiting
    generalize first : h.radioQueue.waiting = all at queues other
    generalize first' : v.radioQueue.waiting = alone at queues
    cases queues with
    | nil => cases other
    | own same rest => exact absurd (beq_iff_eq.mpr same.owned) (Bool.eq_false_iff.mp other)
    | other apart foreign rest =>
        exact m.stepRadio_foreign steady first apart foreign (first' ▸ rest) running
  · rw [Hardware.stepRadio_of_stopped running]
    exact m

variable (alike : ∀ (radio other : R) code,
  (Radio.transmit radio code).1 = (Radio.transmit other code).1)
include alike

/-- Both workers take the same job of the owner. -/
theorem stepRadio_own (m : Mirrors owner k h v) {w w' : Waiting RadioJob}
    {all own : List (Waiting RadioJob)} (first : h.radioQueue.waiting = w :: all)
    (first' : v.radioQueue.waiting = w' :: own) (same : k.SameJob owner w w')
    (rest : k.Queues owner all own) (running : h.radioQueue.worker = .running) :
    Mirrors owner k h.stepRadio v.stepRadio := by
  rw [Hardware.stepRadio_of_cons running first,
    Hardware.stepRadio_of_cons (m.worker.symm.trans running) first', m.leases.cancelled _ _ same.lease]
  split
  case isTrue => exact m.taking rest
  case isFalse =>
    refine (m.taking rest).runRadio same ?_ (steady _ _)
    rw [same.job]
    exact alike _ _ _

/-- The workers do something for the owner, if there is anything to do. -/
theorem work_own (m : Mirrors owner k h v)
    (own : (h.radioQueue.waiting.head?.all fun w => w.job.connection == owner) = true) :
    Mirrors owner k h.stepRadio v.stepRadio := by
  by_cases running : h.radioQueue.worker = .running
  · have queues := m.waiting
    generalize first : h.radioQueue.waiting = all at queues own
    generalize first' : v.radioQueue.waiting = alone at queues
    cases queues with
    | nil =>
        rw [Hardware.stepRadio_of_nil first, Hardware.stepRadio_of_nil first']
        exact m
    | own same rest => exact m.stepRadio_own steady alike first first' same rest running
    | other apart foreign rest => exact absurd (beq_iff_eq.mp own) apart
  · rw [Hardware.stepRadio_of_stopped running,
      Hardware.stepRadio_of_stopped fun running' => running (m.worker.trans running')]
    exact m

/-- Both workers take every job. -/
theorem settleRadio (m : Mirrors owner k h v) : Mirrors owner k h.settleRadio v.settleRadio := by
  by_cases running : h.radioQueue.worker = .running
  · have queues := m.waiting
    generalize first : h.radioQueue.waiting = all at queues
    generalize first' : v.radioQueue.waiting = own at queues
    -- A job of another is taken from the shared radio only, and the other one stands still.
    induction queues generalizing h v with
    | nil =>
        rw [Hardware.settleRadio_of_nil first, Hardware.settleRadio_of_nil first']
        exact m
    | own same rest ih =>
        have step := m.stepRadio_own steady alike first first' same rest running
        obtain ⟨worker, waiting⟩ := Hardware.stepRadio_running steady running first
        obtain ⟨_, waiting'⟩ := Hardware.stepRadio_running steady (m.worker.symm.trans running) first'
        rw [Hardware.settleRadio_of_cons steady running first,
          Hardware.settleRadio_of_cons steady (m.worker.symm.trans running) first']
        exact ih step worker waiting waiting'
    | other apart foreign rest ih =>
        have step := m.stepRadio_foreign steady first apart foreign (first' ▸ rest) running
        obtain ⟨worker, waiting⟩ := Hardware.stepRadio_running steady running first
        rw [Hardware.settleRadio_of_cons steady running first]
        exact ih step worker waiting first'
  · rw [Hardware.settleRadio_of_stopped running,
      Hardware.settleRadio_of_stopped fun running' => running (m.worker.trans running')]
    exact m

end worker

end Mirrors

end Switchboard
