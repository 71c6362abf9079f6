import Switchboard.Proofs.Device.ZigBeeTurns

/-!
Instances of the dongle's protocol that see the same: the same devices under caches of different numbers, and a
dongle that is ready for both leases or for neither. They give the same reply to a request and go on seeing
the same.
-/

namespace Switchboard

namespace ZigBee

variable {R D R' D' : Type}

/-- Two instances that see the same. -/
structure Alike (z : ZigBee) (h : Hardware R D) (y : ZigBee) (g : Hardware R' D') : Prop where
  channel : z.channel = y.channel
  seed : z.seed = y.seed
  negotiator : z.negotiator = y.negotiator
  ready : z.ready h = y.ready g
  devices : z.devices h = y.devices g
  bound : z.cache < h.caches.length
  bound' : y.cache < g.caches.length

/-- The same reply, and what is alike afterwards. -/
def Agree (a : Payload × ZigBee × Hardware R D) (b : Payload × ZigBee × Hardware R' D') : Prop :=
  a.1 = b.1 ∧ Alike a.2.1 a.2.2 b.2.1 b.2.2

/-- The hardware when a command has come in. -/
def queueing (z : ZigBee) (h : Hardware R D) (action : String) (command : DongleCommand) : Hardware R D :=
  { h with
    dongleQueue :=
      { h.dongleQueue with
        waiting := h.dongleQueue.waiting ++
          [⟨z.lease, ⟨z.cache, z.connection, action, command, z.commands h⟩⟩]
        queued := h.dongleQueue.queued + 1 } }

theorem execute_of_ready {z : ZigBee} {h : Hardware R D} (ready : z.ready h = true)
    (action acknowledgement : String) (command : DongleCommand) :
    z.execute h action acknowledgement command =
      (z.reply h action acknowledgement, z.queueing h action command) := by
  rw [ZigBee.ready, JobQueue.leaseAvailable, Bool.and_eq_true, Bool.not_eq_true'] at ready
  have running : h.dongleQueue.worker = .running := beq_iff_eq.mp ready.2
  rw [execute, JobQueue.submit_of_running _ _ ready.1 running]
  rfl

theorem devices_of_caches {z : ZigBee} {h h' : Hardware R D} (same : h'.caches = h.caches) :
    z.devices h' = z.devices h := by
  rw [ZigBee.devices, Hardware.cache, same, ZigBee.devices, Hardware.cache]

theorem devices_setCache_self {z : ZigBee} {h : Hardware R D} (bound : z.cache < h.caches.length)
    (devices : List NetworkDevice) : z.devices (h.setCache z.cache devices) = devices := by
  rw [ZigBee.devices, Hardware.cache, Hardware.setCache, List.getElem?_set_self bound, Option.getD_some]

theorem devices_setCache_of_ne {z : ZigBee} {h : Hardware R D} {n : Nat} (apart : n ≠ z.cache)
    (devices : List NetworkDevice) : z.devices (h.setCache n devices) = z.devices h := by
  rw [ZigBee.devices, Hardware.cache, Hardware.setCache, List.getElem?_set_ne apart, ZigBee.devices,
    Hardware.cache]

namespace Alike

variable {z y : ZigBee} {h : Hardware R D} {g : Hardware R' D'}

theorem commands (a : Alike z h y g) : z.commands h = y.commands g := by
  rw [ZigBee.commands, ZigBee.commands, a.ready]

theorem reply (a : Alike z h y g) (action response : String) :
    z.reply h action response = y.reply g action response := by
  rw [ZigBee.reply, ZigBee.reply, a.commands]

theorem status (a : Alike z h y g) : z.status h = y.status g := by
  rw [ZigBee.status, ZigBee.status, a.ready, a.channel, a.devices, a.negotiator]

theorem defaultDevice (a : Alike z h y g) (dimmableOnly : Bool) :
    z.defaultDevice h dimmableOnly = y.defaultDevice g dimmableOnly := by
  rw [ZigBee.defaultDevice, ZigBee.defaultDevice, a.devices]

theorem negotiating (a : Alike z h y g) (negotiator : Negotiator) :
    Alike { z with negotiator } h { y with negotiator } g :=
  ⟨a.channel, a.seed, rfl, a.ready, a.devices, a.bound, a.bound'⟩

theorem queueing (a : Alike z h y g) (action : String) (command : DongleCommand) :
    Alike z (z.queueing h action command) y (y.queueing g action command) :=
  ⟨a.channel, a.seed, a.negotiator, a.ready, a.devices, a.bound, a.bound'⟩

/-- One side goes on without a trace in what its instance sees. -/
theorem unseen (a : Alike z h y g) {h' : Hardware R D} (ready : z.ready h' = z.ready h)
    (devices : z.devices h' = z.devices h) (length : h.caches.length ≤ h'.caches.length) :
    Alike z h' y g :=
  ⟨a.channel, a.seed, a.negotiator, ready.trans a.ready, devices.trans a.devices,
    Nat.lt_of_lt_of_le a.bound length, a.bound'⟩

theorem close (a : Alike z h y g) : Alike z (z.close h) y (y.close g) := by
  refine ⟨a.channel, a.seed, a.negotiator, ?_, a.devices, a.bound, a.bound'⟩
  rw [ZigBee.ready, ZigBee.ready, JobQueue.leaseAvailable, JobQueue.leaseAvailable, ZigBee.close,
    ZigBee.close, JobQueue.isCancelled_cancel, JobQueue.isCancelled_cancel, beq_self_eq_true,
    beq_self_eq_true, Bool.or_true, Bool.or_true]
  rfl

/-- The same devices are written down on both sides. -/
theorem setCache (a : Alike z h y g) (devices : List NetworkDevice) :
    Alike z (h.setCache z.cache devices) y (g.setCache y.cache devices) := by
  refine ⟨a.channel, a.seed, a.negotiator, a.ready, ?_, ?_, ?_⟩
  · rw [devices_setCache_self a.bound, devices_setCache_self a.bound']
  · exact Nat.lt_of_lt_of_eq a.bound List.length_set.symm
  · exact Nat.lt_of_lt_of_eq a.bound' List.length_set.symm

/-- Both give the same reply and stay as they are. -/
theorem stays (a : Alike z h y g) {reply reply' : Payload} (same : reply = reply') :
    Agree (reply, z, h) (reply', y, g) :=
  ⟨same, a⟩

theorem execute (a : Alike z h y g) (ready : z.ready h = true) (action acknowledgement : String)
    (command : DongleCommand) :
    Agree
      ((z.execute h action acknowledgement command).1, z, (z.execute h action acknowledgement command).2)
      ((y.execute g action acknowledgement command).1, y,
        (y.execute g action acknowledgement command).2) := by
  rw [execute_of_ready ready, execute_of_ready (a.ready.symm.trans ready)]
  exact ⟨a.reply _ _, a.queueing _ _⟩

theorem list (a : Alike z h y g) :
    Agree ((z.list h).1, z, (z.list h).2) ((y.list g).1, y, (y.list g).2) := by
  rw [ZigBee.list, ZigBee.list, ← a.ready]
  split
  case isTrue => exact a.stays (a.reply _ _)
  case isFalse ready =>
    rw [Bool.not_eq_true', Bool.not_eq_false] at ready
    exact a.execute ready _ _ _

theorem withArguments {α : Type} [CommandArguments α] (a : Alike z h y g) (action : String)
    (data : Option String) {schema schema' : ArgumentSchema} (same : schema = schema')
    {run : ZigBee → α → Payload × Hardware R D} {run' : ZigBee → α → Payload × Hardware R' D'}
    (runs : z.ready h = true → ∀ negotiator arguments,
      Agree
        ((run { z with negotiator } arguments).1, { z with negotiator },
          (run { z with negotiator } arguments).2)
        ((run' { y with negotiator } arguments).1, { y with negotiator },
          (run' { y with negotiator } arguments).2)) :
    Agree (z.withArguments h action data schema run) (y.withArguments g action data schema' run') := by
  rw [ZigBee.withArguments, ZigBee.withArguments, ← a.ready, same]
  split
  case isTrue => exact a.stays (a.reply _ _)
  case isFalse ready =>
    rw [Bool.not_eq_true', Bool.not_eq_false] at ready
    simp only [Negotiator.negotiate]
    generalize (Negotiation.negotiate data schema' : Negotiation α) = outcome
    cases outcome with
    | ready arguments => exact runs ready _ arguments
    | challenge schema =>
        refine (a.negotiating _).stays ?_
        rw [(a.negotiating _).commands]
    | malformed reason => exact (a.negotiating _).stays ((a.negotiating _).reply _ _)

theorem permitJoin (a : Alike z h y g) (data : Option String) :
    Agree (z.permitJoin h data) (y.permitJoin g data) :=
  a.withArguments _ _ rfl fun ready negotiator _ => (a.negotiating negotiator).execute ready _ _ _

theorem deviceAction (a : Alike z h y g) (action description : String) (data : Option String)
    (command : String → DongleCommand) :
    Agree (z.deviceAction h action description data command)
      (y.deviceAction g action description data command) := by
  refine a.withArguments _ _ ?_ fun ready negotiator _ => (a.negotiating negotiator).execute ready _ _ _
  rw [a.defaultDevice]

theorem setLevel (a : Alike z h y g) (data : Option String) :
    Agree (z.setLevel h data) (y.setLevel g data) := by
  refine a.withArguments _ _ ?_ fun ready negotiator _ => (a.negotiating negotiator).execute ready _ _ _
  rw [a.defaultDevice]

theorem reset (a : Alike z h y g) : Agree (z.reset h) (y.reset g) := by
  have after : Alike { z with negotiator := {} } (h.setCache z.cache z.seed) { y with negotiator := {} }
      (g.setCache y.cache y.seed) := by
    have written : g.setCache y.cache y.seed = g.setCache y.cache z.seed := by rw [a.seed]
    rw [written]
    exact (a.setCache _).negotiating {}
  refine ⟨?_, after⟩
  simp only [ZigBee.reset, after.status, after.reply]

/-- Instances that see the same reply the same and go on seeing the same. -/
theorem process (a : Alike z h y g) (p : Payload) : Agree (z.process p h) (y.process p g) := by
  rw [ZigBee.process, ZigBee.process]
  split
  · rw [a.status]
    exact a.stays (a.reply _ _)
  · exact a.reset
  · exact a.list
  · exact a.permitJoin _
  · exact a.deviceAction _ _ _ _
  · exact a.deviceAction _ _ _ _
  · exact a.deviceAction _ _ _ _
  · exact a.setLevel _
  · exact a.stays (a.reply _ _)

end Alike

/-- What another instance does with a cache of its own cannot be seen. -/
theorem unseen_of_turn {z other : ZigBee} {h : Hardware R D} {result : Payload × ZigBee × Hardware R D}
    (turn : ZigBeeTurn other h result) (apart : other.cache ≠ z.cache) :
    z.ready result.2.2 = z.ready h ∧ z.devices result.2.2 = z.devices h := by
  cases turn with
  | told _ _ => exact ⟨rfl, rfl⟩
  | restarted _ => exact ⟨rfl, devices_setCache_of_ne apart _⟩
  | queued _ _ _ submitted _ =>
      rw [JobQueue.eq_of_submit submitted]
      exact ⟨rfl, rfl⟩

end ZigBee

end Switchboard
