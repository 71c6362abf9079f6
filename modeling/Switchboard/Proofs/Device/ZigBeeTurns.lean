import Switchboard.Device.ZigBee
import Switchboard.Proofs.Hardware.QueueRun

/-!
Turns of the dongle's protocol. A request has its answer told at once and at most one command queued; only a
reset writes down the network that was known at the start.
-/

namespace Switchboard

/-- What a request can do. Each reply lists what can be asked next. -/
inductive ZigBeeTurn {R D : Type} (z : ZigBee) (h : Hardware R D) :
    Payload × ZigBee × Hardware R D → Prop
  | told {reply : Payload} (negotiator : Negotiator) :
    reply.commands = z.commands h → ZigBeeTurn z h (reply, { z with negotiator }, h)
  | queued {reply : Payload} (negotiator : Negotiator) {job : DongleJob}
    {dongleQueue : JobQueue DongleJob} :
    job.cache = z.cache → job.connection = z.connection →
    h.dongleQueue.submit z.lease job = .ok dongleQueue →
    reply.commands = z.commands { h with dongleQueue } →
      ZigBeeTurn z h (reply, { z with negotiator }, { h with dongleQueue })
  | restarted {reply : Payload} :
    reply.commands = z.commands (h.setCache z.cache z.seed) →
      ZigBeeTurn z h (reply, { z with negotiator := {} }, h.setCache z.cache z.seed)

variable {R D : Type} {z : ZigBee} {h : Hardware R D}

theorem zigBeeTurn_execute (negotiator : Negotiator) (action acknowledgement : String)
    (command : DongleCommand) :
    ZigBeeTurn z h ((z.execute h action acknowledgement command).1, { z with negotiator },
      (z.execute h action acknowledgement command).2) := by
  rw [ZigBee.execute]
  split
  · next submitted => exact .queued negotiator rfl rfl submitted rfl
  · exact .told negotiator rfl

theorem zigBeeTurn_list : ZigBeeTurn z h ((z.list h).1, z, (z.list h).2) := by
  rw [ZigBee.list]
  split
  case isTrue => exact .told z.negotiator rfl
  case isFalse => exact zigBeeTurn_execute z.negotiator _ _ _

theorem zigBeeTurn_withArguments {α : Type} [CommandArguments α] (action : String)
    (data : Option String) (schema : ArgumentSchema) {run : ZigBee → α → Payload × Hardware R D}
    (turn : ∀ negotiator arguments,
      ZigBeeTurn z h ((run { z with negotiator } arguments).1, { z with negotiator },
        (run { z with negotiator } arguments).2)) :
    ZigBeeTurn z h (z.withArguments h action data schema run) := by
  rw [ZigBee.withArguments]
  split
  case isTrue => exact .told z.negotiator rfl
  case isFalse =>
    simp only [Negotiator.negotiate]
    generalize (Negotiation.negotiate data schema : Negotiation α) = outcome
    cases outcome with
    | ready arguments => exact turn _ arguments
    | challenge schema => exact .told _ rfl
    | malformed reason => exact .told _ rfl

theorem zigBeeTurn_process (z : ZigBee) (p : Payload) (h : Hardware R D) :
    ZigBeeTurn z h (z.process p h) := by
  rw [ZigBee.process]
  split
  · exact .told z.negotiator rfl
  · exact .restarted rfl
  · exact zigBeeTurn_list
  · exact zigBeeTurn_withArguments _ _ _ fun negotiator _ => zigBeeTurn_execute negotiator _ _ _
  · exact zigBeeTurn_withArguments _ _ _ fun negotiator _ => zigBeeTurn_execute negotiator _ _ _
  · exact zigBeeTurn_withArguments _ _ _ fun negotiator _ => zigBeeTurn_execute negotiator _ _ _
  · exact zigBeeTurn_withArguments _ _ _ fun negotiator _ => zigBeeTurn_execute negotiator _ _ _
  · exact zigBeeTurn_withArguments _ _ _ fun negotiator _ => zigBeeTurn_execute negotiator _ _ _
  · exact .told z.negotiator rfl

/-- The lease of an instance and the connection it is for. -/
def ZigBee.owner (z : ZigBee) : Nat × String :=
  (z.lease, z.connection)

/-- The lease of an instance and its cache. -/
def ZigBee.place (z : ZigBee) : Nat × Nat :=
  (z.lease, z.cache)

/-- What an instance was started with. -/
def ZigBee.setup (z : ZigBee) : String × UInt8 × List NetworkDevice :=
  (z.connection, z.channel, z.seed)

namespace ZigBeeTurn

variable {result : Payload × ZigBee × Hardware R D}

theorem owner_eq (turn : ZigBeeTurn z h result) : result.2.1.owner = z.owner := by
  cases turn <;> rfl

theorem place_eq (turn : ZigBeeTurn z h result) : result.2.1.place = z.place := by
  cases turn <;> rfl

theorem setup_eq (turn : ZigBeeTurn z h result) : result.2.1.setup = z.setup := by
  cases turn <;> rfl

theorem length_caches_eq (turn : ZigBeeTurn z h result) :
    result.2.2.caches.length = h.caches.length := by
  cases turn with
  | told _ _ => rfl
  | queued _ _ _ _ _ => rfl
  | restarted _ => exact List.length_set

/-- What waits after a request waited before or is for the cache of the instance. -/
theorem waits_or_own (turn : ZigBeeTurn z h result) {w : Waiting DongleJob}
    (waits : w ∈ result.2.2.dongleQueue.waiting) :
    w ∈ h.dongleQueue.waiting ∨ (w.lease, w.job.cache) = z.place := by
  cases turn with
  | told _ _ => exact .inl waits
  | restarted _ => exact .inl waits
  | queued _ cache _ submitted _ =>
      rw [JobQueue.waiting_of_submit submitted] at waits
      rcases List.mem_append.mp waits with old | new
      · exact .inl old
      · rw [List.mem_singleton.mp new, cache]
        exact .inr rfl

theorem dongle_eq (turn : ZigBeeTurn z h result) : result.2.2.dongle = h.dongle := by
  cases turn <;> rfl

theorem outbox_eq (turn : ZigBeeTurn z h result) : result.2.2.outbox = h.outbox := by
  cases turn <;> rfl

/-- A request queues at most one job, behind all that waits and for its own connection. -/
theorem dongleQueue_eq (turn : ZigBeeTurn z h result) :
    ∃ jobs : List (Waiting DongleJob), jobs.length ≤ 1 ∧
      (∀ entry ∈ jobs, (entry.lease, entry.job.connection) = z.owner) ∧
      result.2.2.dongleQueue =
        { h.dongleQueue with
          waiting := h.dongleQueue.waiting ++ jobs
          queued := h.dongleQueue.queued + jobs.length } := by
  cases turn with
  | told _ _ => exact ⟨[], Nat.zero_le _, nofun, by simp⟩
  | restarted _ => exact ⟨[], Nat.zero_le _, nofun, by simp [Hardware.setCache]⟩
  | @queued _ _ job _ cache connection submitted _ =>
      refine ⟨[⟨z.lease, job⟩], Nat.le_refl _, ?_, JobQueue.eq_of_submit submitted⟩
      intro entry mem
      rw [List.mem_singleton] at mem
      rw [mem, ZigBee.owner, connection]

end ZigBeeTurn

end Switchboard
