import Switchboard.Proofs.Device.Noticing

/-!
What an instance of the dongle's protocol knows of the network after a reset. It answers as one does that was
just started and learns of the network what the jobs of the first find; these are the jobs that were queued
after the reset and those that waited at it.
-/

namespace Switchboard

def DongleStep.isWork : DongleStep → Bool
  | .work => true
  | _ => false

theorem DongleStep.isWork_iff {s : DongleStep} : s.isWork = true ↔ s = .work := by
  cases s <;> simp [isWork]

/-- An instance that knows what it was started with. -/
structure Untaught (seed : List NetworkDevice) (x : LoneZigBee) : Prop where
  seed_eq : x.protocol.seed = seed
  devices : x.devices = seed
  bound : x.protocol.cache < x.hardware.caches.length

namespace Untaught

variable {seed : List NetworkDevice} {x : LoneZigBee}

theorem start (config : ZigBeeConfig) (connection : String) (hasDongle : Bool) :
    Untaught (config.devices.map NetworkDevice.ofEntry) (.start config connection hasDongle) :=
  ⟨rfl, rfl, Nat.zero_lt_one⟩

theorem notice (h : Untaught seed x) {e : Noticed} (nothing : ∀ devices, e ≠ .found devices) :
    Untaught seed (x.notice e) := by
  cases e with
  | asked p =>
      have turn := zigBeeTurn_process x.protocol p x.hardware
      rw [LoneZigBee.notice]
      generalize x.protocol.process p x.hardware = result at turn ⊢
      cases turn with
      | told _ _ => exact ⟨h.seed_eq, h.devices, h.bound⟩
      | queued _ _ _ _ _ => exact ⟨h.seed_eq, h.devices, h.bound⟩
      | restarted _ =>
          refine ⟨h.seed_eq, ?_, Nat.lt_of_lt_of_eq h.bound List.length_set.symm⟩
          exact (ZigBee.devices_setCache_self h.bound _).trans h.seed_eq
  | found devices => exact absurd rfl (nothing devices)
  | closed => exact ⟨h.seed_eq, h.devices, h.bound⟩

theorem after (h : Untaught seed x) {noticed : List Noticed}
    (nothing : ∀ devices, .found devices ∉ noticed) : Untaught seed (LoneZigBee.machine.after x noticed) := by
  induction noticed generalizing x with
  | nil => exact h
  | cons e rest ih =>
      refine ih (h.notice ?_) ?_
      · rintro devices rfl
        exact nothing devices List.mem_cons_self
      · intro devices mem
        exact nothing devices (List.mem_cons_of_mem _ mem)

end Untaught

/-- The first `older` jobs that wait are not those of a member with this lease. -/
structure Strangers {R D : Type} (n lease older : Nat) (r : DongleRun R D) : Prop where
  lease_eq : (r.members.map ZigBee.lease)[n]? = some lease
  waiting : ∃ old new, r.hardware.dongleQueue.waiting = old ++ new ∧ older ≤ old.length ∧
    ∀ w ∈ old, w.lease ≠ lease

namespace Strangers

variable {R D : Type} [Dongle D] {view : EventView D} {n lease older : Nat} {r : DongleRun R D}

variable (view) in
theorem lease_step (h : Strangers n lease older r) (s : DongleStep) :
    ((r.step view s).members.map ZigBee.lease)[n]? = some lease := by
  have kept (z : ZigBee) (p : Payload) (h : Hardware R D) : (z.process p h).2.1.lease = z.lease :=
    congrArg Prod.fst (zigBeeTurn_process z p h).owner_eq
  rw [DongleRun.map_members_step ZigBee.lease kept]
  exact (List.getElem?_append_left (List.getElem?_eq_some_iff.mp h.lease_eq).1).trans h.lease_eq

omit [Dongle D] in
theorem owns_iff (h : Strangers n lease older r) (w : Waiting DongleJob) :
    r.owns n w = true ↔ w.lease = lease := by
  have there := h.lease_eq
  rw [List.getElem?_map, Option.map_eq_some_iff] at there
  obtain ⟨member, found, rfl⟩ := there
  rw [DongleRun.owns, found, Option.any_some, beq_iff_eq, eq_comm]

omit [Dongle D] in
/-- What comes in waits behind. -/
theorem behind (h : Strangers n lease older r) {next : DongleRun R D} {more : List (Waiting DongleJob)}
    (lease_eq : (next.members.map ZigBee.lease)[n]? = some lease)
    (waiting : next.hardware.dongleQueue.waiting = r.hardware.dongleQueue.waiting ++ more) :
    Strangers n lease older next := by
  obtain ⟨old, new, same, enough, apart⟩ := h.waiting
  refine ⟨lease_eq, old, new ++ more, ?_, enough, apart⟩
  rw [waiting, same, List.append_assoc]

variable (view) in
/-- The worker takes one of these jobs, and the member does not notice. -/
theorem worked (h : Strangers n lease (older + 1) r) :
    r.notices view n .work = none ∧ Strangers n lease older (r.step view .work) := by
  have lease_eq := h.lease_step view .work
  have worked := DongleRun.worked view r.hardware
  obtain ⟨old, new, same, enough, apart⟩ := h.waiting
  cases old with
  | nil => exact absurd enough (Nat.not_succ_le_zero older)
  | cons w rest =>
      obtain ⟨first, later⟩ := List.forall_mem_cons.mp apart
      rw [DongleRun.step] at lease_eq ⊢
      rw [DongleRun.notices]
      generalize DongleRun.nextTake view r.hardware = e, r.hardware.stepDongle = next at worked lease_eq ⊢
      cases worked with
      | idle => exact ⟨rfl, lease_eq, w :: rest, new, same, Nat.le_of_succ_le enough, apart⟩
      | skipped _ waiting _ =>
          obtain ⟨rfl, rfl⟩ := List.cons.inj (waiting.symm.trans same)
          exact ⟨rfl, lease_eq, rest, new, rfl, Nat.le_of_succ_le_succ enough, later⟩
      | @ran entry behind _ waiting _ =>
          obtain ⟨rfl, rfl⟩ := List.cons.inj (waiting.symm.trans same)
          refine ⟨if_neg fun own => first ((h.owns_iff entry).mp own), lease_eq, rest, new, ?_,
            Nat.le_of_succ_le_succ enough, later⟩
          rw [Hardware.runDongle_eq]
          rfl

theorem notices_ne_found (r : DongleRun R D) {s : DongleStep} (idle : s.isWork = false)
    (devices : List NetworkDevice) : r.notices view n s ≠ some (.found devices) := by
  cases s with
  | work => cases idle
  | join connection config => exact (Option.some_ne_none _).symm
  | request m p =>
      rw [DongleRun.notices]
      split <;> simp
  | close m =>
      rw [DongleRun.notices]
      split <;> simp
  | raise events => exact (Option.some_ne_none _).symm

variable (view) in
/-- Whatever happens beside the work of the worker, these jobs go on waiting in front. -/
theorem beside (h : Strangers n lease older r) {s : DongleStep} (idle : s.isWork = false) :
    Strangers n lease older (r.step view s) := by
  have lease_eq := h.lease_step view s
  cases s with
  | work => cases idle
  | join connection config => exact h.behind lease_eq (List.append_nil _).symm
  | request m p =>
      cases found : r.members[m]? with
      | none =>
          rw [DongleRun.step, found]
          exact h
      | some member =>
          obtain ⟨_, _, _, queue⟩ := (zigBeeTurn_process member p r.hardware).dongleQueue_eq
          rw [DongleRun.step_request p found] at lease_eq ⊢
          exact h.behind lease_eq (congrArg JobQueue.waiting queue)
  | close m =>
      cases found : r.members[m]? with
      | none =>
          rw [DongleRun.step, found]
          exact h
      | some member =>
          rw [DongleRun.step_close found] at lease_eq ⊢
          exact h.behind lease_eq ((JobQueue.cancel_waiting _ _).trans (List.append_nil _).symm)
  | raise events => exact h.behind lease_eq (List.append_nil _).symm

/-- Nothing is found for the member before a job behind these has run. -/
theorem not_found (h : Strangers n lease older r) {steps : List DongleStep}
    (enough : steps.countP DongleStep.isWork ≤ older) (devices : List NetworkDevice) :
    .found devices ∉ r.noticed view n steps := by
  induction steps generalizing r older with
  | nil => exact List.not_mem_nil
  | cons s rest ih =>
      rw [DongleRun.noticed, Machine.noticed, List.mem_append, Option.mem_toList, not_or]
      cases turn : s.isWork with
      | false =>
          rw [List.countP_cons_of_neg (Bool.eq_false_iff.mp turn)] at enough
          exact ⟨notices_ne_found r turn devices, ih (h.beside view turn) enough⟩
      | true =>
          rw [List.countP_cons_of_pos turn] at enough
          obtain ⟨older, rfl⟩ := Nat.exists_eq_add_of_le' (Nat.le_of_add_left_le enough)
          obtain rfl := DongleStep.isWork_iff.mp turn
          obtain ⟨notices, next⟩ := h.worked view
          refine ⟨?_, ih next (Nat.le_of_succ_le_succ enough)⟩
          rw [notices]
          exact (Option.some_ne_none _).symm

end Strangers

/-- What a member knows of the network since a reset. -/
structure Relearned {R D : Type} [Dongle D] (view : EventView D) (n : Nat) (r : DongleRun R D)
    (fresh : LoneZigBee) : Prop where
  /-- Its replies are those of an instance that was just started and learns what its jobs find, also those
  that waited at the reset. -/
  replies : ∀ later, (DongleRun.machine view n).replies r later =
    LoneZigBee.machine.replies fresh (r.noticed view n later)
  /-- Until a job of its own has found anything, it knows what it was started with. -/
  seeded : ∀ later member, (r.play view later).members[n]? = some member →
    (∀ devices, .found devices ∉ r.noticed view n later) →
      member.devices (r.play view later).hardware = fresh.devices
  /-- If none of its jobs waited at the reset, nothing is found before a job that was queued since has run. -/
  undisturbed : (∀ w ∈ r.hardware.dongleQueue.waiting, r.owns n w = false) → ∀ later,
    later.countP DongleStep.isWork ≤ r.hardware.dongleQueue.waiting.length →
      ∀ devices, .found devices ∉ r.noticed view n later
  /-- A job of its own that runs and finds devices makes them known, though it may have waited at the reset. -/
  recalled : ∀ later member entry rest devices, (r.play view later).members[n]? = some member →
    (r.play view later).hardware.dongleQueue.worker = .running →
    (r.play view later).hardware.dongleQueue.waiting = entry :: rest → entry.lease = member.lease →
    (r.play view later).hardware.dongleQueue.isCancelled entry.lease = false →
    Hardware.lookup (r.play view later).hardware.dongle entry.job.command = some devices →
      member.devices ((r.play view later).step view .work).hardware = devices

namespace Resumed

variable {R D : Type} [Dongle D] {view : EventView D} {n : Nat} {member : ZigBee} {r : DongleRun R D}
  {x : LoneZigBee}

/-- A reset starts a member over, with its cache. -/
theorem start (d : Housed r) (found : r.members[n]? = some member)
    (live : r.hardware.dongleQueue.isCancelled member.lease = false) {connection : String}
    {config : ZigBeeConfig} (setup : member.setup = setupOf (connection, config)) {p : Payload}
    (reset : p.effectiveAction = Action.reset) :
    Resumed n (r.step view (.request n p))
      (.start config connection r.hardware.dongleQueue.isAvailable) := by
  have resets : member.process p r.hardware = member.reset r.hardware := by
    simp only [ZigBee.process, reset, Action.reset]
  obtain ⟨_, configured⟩ := Prod.mk.inj setup
  obtain ⟨channel, seed⟩ := Prod.mk.inj configured
  have inside : member.cache < r.hardware.caches.length :=
    d.caches_lt _ (List.mem_map_of_mem (List.mem_of_getElem? found))
  refine ⟨d.step _, { member with negotiator := {} }, ?_, ?_⟩
  · rw [DongleRun.step_request p found, resets]
    exact List.getElem?_set_self (bound found)
  · rw [DongleRun.step_request p found, resets]
    refine ⟨channel, seed, rfl, ?_, ?_, ?_, Nat.zero_lt_one⟩
    · change (!r.hardware.dongleQueue.isCancelled member.lease && r.hardware.dongleQueue.isAvailable) = _
      rw [live]
      cases r.hardware.dongleQueue.isAvailable <;> rfl
    · exact (ZigBee.devices_setCache_self inside _).trans seed
    · exact Nat.lt_of_lt_of_eq inside List.length_set.symm

theorem recalled (d : Housed r) (found : r.members[n]? = some member)
    (running : r.hardware.dongleQueue.worker = .running) {entry : Waiting DongleJob}
    {rest : List (Waiting DongleJob)} (waiting : r.hardware.dongleQueue.waiting = entry :: rest)
    (mine : entry.lease = member.lease)
    (live : r.hardware.dongleQueue.isCancelled entry.lease = false) {devices : List NetworkDevice}
    (seen : Hardware.lookup r.hardware.dongle entry.job.command = some devices) :
    member.devices (r.step view .work).hardware = devices := by
  -- A reset keeps the cache, so a job that waited at it writes to the one that is still in use.
  have cache : entry.job.cache = member.cache :=
    (d.lease_eq_iff found (waiting ▸ List.mem_cons_self)).mp mine
  have caches : ((r.hardware.takingDongle rest).runDongle entry.job).caches =
      (r.hardware.setCache member.cache devices).caches := by
    rw [Hardware.runDongle_eq]
    refine (Hardware.cachesAfter_eq _ _).trans ?_
    change ((Hardware.lookup r.hardware.dongle entry.job.command).map _).getD _ = _
    rw [seen, cache]
    rfl
  rw [DongleRun.step_work_of_cons running waiting, if_neg (Bool.eq_false_iff.mp live)]
  refine (ZigBee.devices_of_caches caches).trans (ZigBee.devices_setCache_self ?_ devices)
  exact d.caches_lt _ (List.mem_map_of_mem (List.mem_of_getElem? found))

theorem relearned {seed : List NetworkDevice} (resumed : Resumed n r x) (untaught : Untaught seed x) :
    Relearned view n r x := by
  have run (later : List DongleStep) := Machine.replies_of_matched (matched view) resumed later
  have followed (later : List DongleStep) {other : ZigBee}
      (found : (r.play view later).members[n]? = some other) :
      Housed (r.play view later) ∧ other.devices (r.play view later).hardware =
        (LoneZigBee.machine.after x (r.noticed view n later)).devices := by
    obtain ⟨_, housed, next, there, alike⟩ := run later
    obtain rfl := Option.some.inj (there.symm.trans found)
    exact ⟨housed, alike.devices⟩
  refine ⟨fun later => (run later).1, ?_, ?_, ?_⟩
  · intro later other found nothing
    rw [(followed later found).2, (untaught.after nothing).devices, untaught.devices]
  · intro strangers later enough
    obtain ⟨_, member, found, _⟩ := resumed
    have lease_eq : (r.members.map ZigBee.lease)[n]? = some member.lease := by
      rw [List.getElem?_map, found, Option.map_some]
    have aside : Strangers n member.lease r.hardware.dongleQueue.waiting.length r := by
      refine ⟨lease_eq, _, [], (List.append_nil _).symm, Nat.le_refl _, ?_⟩
      intro w waits mine
      have other := strangers w waits
      rw [DongleRun.owns, found, Option.any_some, mine, beq_self_eq_true] at other
      cases other
    exact aside.not_found enough
  · intro later other entry rest devices found running waiting mine live seen
    exact recalled (followed later found).1 found running waiting mine live seen

end Resumed

/-- What resets do in a run of the dongle. -/
structure RelearningLaw {R D : Type} [Dongle D] (view : EventView D) (r : DongleRun R D)
    (joined : List (String × ZigBeeConfig)) : Prop where
  /-- A member that has not closed starts over with what it joined with, and with a dongle if there is one. -/
  reset : ∀ n member connection config p, r.members[n]? = some member →
    joined[n]? = some (connection, config) →
    r.hardware.dongleQueue.isCancelled member.lease = false → p.effectiveAction = Action.reset →
      Relearned view n (r.step view (.request n p))
        (.start config connection r.hardware.dongleQueue.isAvailable)

theorem relearning_law {R D : Type} [Dongle D] (view : EventView D) (radio : R) (dongle : D)
    (hasRadio hasDongle : Bool) (before : List DongleStep) :
    RelearningLaw view ((DongleRun.attached radio dongle hasRadio hasDongle).play view before)
      (before.flatMap DongleStep.joins) := by
  have housed : Housed ((DongleRun.attached radio dongle hasRadio hasDongle).play view before) :=
    (Housed.attached radio dongle hasRadio hasDongle).play before
  have setups := (DongleRun.attached radio dongle hasRadio hasDongle).setups_play view before
  generalize (DongleRun.attached radio dongle hasRadio hasDongle).play view before = r at housed setups
  refine ⟨?_⟩
  intro n member connection config p found joined live reset
  have setup : member.setup = setupOf (connection, config) := by
    have there : (r.members.map ZigBee.setup)[n]? = some (setupOf (connection, config)) := by
      rw [setups, DongleRun.attached, List.map_nil, List.nil_append, List.getElem?_map, joined,
        Option.map_some]
    rw [List.getElem?_map, found, Option.map_some, Option.some.injEq] at there
    exact there
  exact (Resumed.start housed found live setup reset).relearned (.start config connection _)

/-- A job that waited at a reset brings back what was learned: it opened the network, a device joined, and the
instance knows it after the reset, though no job was queued since. One that was just started knows none. -/
theorem learned_after_reset :
    let r := (DongleRun.attached () ({} : SimulatedDongle) false true).play SimulatedDongle.view
      [.join "a" {},
        .request 0 { Payload.request "PermitJoin" with data := some "\x7b\"seconds\":\"30\"\x7d" },
        .request 0 (.request "Reset")]
    r.hardware.dongleQueue.waiting.length = 1 ∧
      ((DongleRun.machine SimulatedDongle.view 0).replies r [.work, .request 0 .ping]).map Payload.response =
        [some "ZigBee network on channel 15, 1 devices"] ∧
      (LoneZigBee.machine.replies (.start {} "a" true) [.asked .ping]).map Payload.response =
        [some "ZigBee network on channel 15, 0 devices"] := by
  decide +kernel

end Switchboard
