import Switchboard.Hardware.Basic
import Switchboard.Proofs.Hardware.QueueRun

/-!
What the worker of the dongle does with a job. It gives the command, looks the network up again and polls
once; the result and the events go to the connection of the job, whatever came of the command.
-/

namespace Switchboard

namespace Hardware

variable {R D : Type} [Dongle D]

/-- Gives a command and looks the network up again. -/
def attend (dongle : D) (command : DongleCommand) : Except Failure Payload × D :=
  let (result, dongle) := perform dongle command
  (result, (Dongle.devices dongle).2)

/-- What a job puts out: its result and then the events that were polled after it. -/
def DongleJob.messages (job : DongleJob) (result : Except Failure Payload)
    (events : List NetworkEvent) : List (String × Payload) :=
  (job.connection, DongleJob.report job result) ::
    events.map fun event => (job.connection, DongleJob.eventReport job event)

/-- The networks as last known when a job has run. A lookup that fails changes none. -/
def cachesAfter (h : Hardware R D) (job : DongleJob) : List (List NetworkDevice) :=
  match (Dongle.devices (perform h.dongle job.command).2).1 with
  | .ok devices => h.caches.set job.cache devices
  | .error _ => h.caches

theorem length_cachesAfter (h : Hardware R D) (job : DongleJob) :
    (h.cachesAfter job).length = h.caches.length := by
  rw [cachesAfter]
  split
  · exact List.length_set
  · rfl

omit [Dongle D] in
theorem foldl_emit {E : Type} (connection : String) (make : E → Payload) (events : List E)
    (h : Hardware R D) :
    events.foldl (fun h event => h.emit connection (make event)) h =
      { h with outbox := h.outbox ++ events.map fun event => (connection, make event) } := by
  induction events generalizing h with
  | nil => rw [List.foldl_nil, List.map_nil, List.append_nil]
  | cons event rest ih =>
      rw [List.foldl_cons, ih, emit]
      simp only [List.map_cons, List.append_assoc, List.singleton_append]

theorem runDongle_eq (h : Hardware R D) (job : DongleJob) :
    h.runDongle job =
      { h with
        dongle := (Dongle.pollEvents (attend h.dongle job.command).2).2
        caches := h.cachesAfter job
        outbox := h.outbox ++ DongleJob.messages job (attend h.dongle job.command).1
          (Dongle.pollEvents (attend h.dongle job.command).2).1 } := by
  rw [runDongle]
  simp only [foldl_emit, cachesAfter, attend]
  cases (Dongle.devices (perform h.dongle job.command).2).1 with
  | ok devices => simp [emit, setCache, DongleJob.messages]
  | error failure => simp [emit, DongleJob.messages]

/-- The hardware when the first job is taken. -/
def takingDongle (h : Hardware R D) (rest : List (Waiting DongleJob)) : Hardware R D :=
  { h with
    dongleQueue := { h.dongleQueue with waiting := rest, queued := h.dongleQueue.queued - 1 } }

variable {h : Hardware R D}

theorem stepDongle_of_nil (nothing : h.dongleQueue.waiting = []) : h.stepDongle = h := by
  rw [stepDongle, JobQueue.take?_of_nil nothing]

theorem stepDongle_of_stopped (stopped : h.dongleQueue.worker ≠ .running) : h.stepDongle = h := by
  rw [stepDongle, JobQueue.take?_of_stopped stopped]

theorem stepDongle_of_cons {entry : Waiting DongleJob} {rest : List (Waiting DongleJob)}
    (running : h.dongleQueue.worker = .running) (waiting : h.dongleQueue.waiting = entry :: rest) :
    h.stepDongle =
      if h.dongleQueue.isCancelled entry.lease then h.takingDongle rest
      else (h.takingDongle rest).runDongle entry.job := by
  rw [stepDongle, JobQueue.take?_of_cons running waiting]
  cases h.dongleQueue.isCancelled entry.lease <;> rfl

end Hardware

/-- How the events of a dongle can be followed. -/
structure EventView (D : Type) where
  /-- The events that were raised and not polled, the oldest first. -/
  held : D → List NetworkEvent
  /-- Lets events be raised while the dongle is not in use. -/
  raise : D → List NetworkEvent → D

namespace EventView

/-- A dongle keeps what it raised until it is polled, and gives it out then. It may raise more at any time,
also while it is in use. -/
structure Lawful {D : Type} [Dongle D] (view : EventView D) : Prop where
  raise : ∀ dongle events, view.held (view.raise dongle events) = view.held dongle ++ events
  devices : ∀ dongle : D, view.held dongle <+: view.held (Dongle.devices dongle).2
  permitJoin : ∀ (dongle : D) seconds, view.held dongle <+: view.held (Dongle.permitJoin dongle seconds).2
  setOnOff : ∀ (dongle : D) device on, view.held dongle <+: view.held (Dongle.setOnOff dongle device on).2
  setLevel : ∀ (dongle : D) device level,
    view.held dongle <+: view.held (Dongle.setLevel dongle device level).2
  identify : ∀ (dongle : D) device, view.held dongle <+: view.held (Dongle.identify dongle device).2
  polled : ∀ dongle : D, (Dongle.pollEvents dongle).1 = view.held dongle
  emptied : ∀ dongle : D, view.held (Dongle.pollEvents dongle).2 = []

variable {D : Type} {view : EventView D}

/-- The events that were raised between two states of a dongle. -/
def raised (view : EventView D) (before after : D) : List NetworkEvent :=
  (view.held after).drop (view.held before).length

theorem held_append_raised {before after : D} (kept : view.held before <+: view.held after) :
    view.held before ++ view.raised before after = view.held after := by
  obtain ⟨more, grown⟩ := kept
  rw [raised, ← grown, List.drop_left]

variable [Dongle D]

theorem Lawful.perform (lawful : view.Lawful) (dongle : D) (command : DongleCommand) :
    view.held dongle <+: view.held (Hardware.perform dongle command).2 := by
  cases command with
  | listDevices => exact lawful.devices dongle
  | permitJoin seconds => exact lawful.permitJoin dongle seconds
  | setOnOff device on => exact lawful.setOnOff dongle device on
  | identify device => exact lawful.identify dongle device
  | setLevel device level => exact lawful.setLevel dongle device level

theorem Lawful.attend (lawful : view.Lawful) (dongle : D) (command : DongleCommand) :
    view.held dongle <+: view.held (Hardware.attend dongle command).2 :=
  (lawful.perform dongle command).trans (lawful.devices _)

end EventView

namespace SimulatedDongle

def view : EventView SimulatedDongle where
  held := events
  raise g events := { g with events := g.events ++ events }

theorem events_change (g : SimulatedDongle) (id : String)
    (f : NetworkDevice → Except Failure NetworkDevice) (events : List NetworkEvent) :
    g.events <+: (g.change id f events).2.events := by
  rw [change]
  cases update id f g.devices with
  | ok devices => exact List.prefix_append _ _
  | error failure => exact List.prefix_refl _

theorem lawful_view : view.Lawful where
  raise _ _ := rfl
  devices _ := List.prefix_refl _
  permitJoin g seconds := by
    change g.events <+: (g.permitJoin seconds).2.events
    rw [permitJoin]
    split
    · exact List.prefix_refl _
    · exact List.prefix_append _ _
  setOnOff g id on := g.events_change id _ _
  setLevel g id level := g.events_change id _ _
  identify g id := g.events_change id _ _
  polled _ := rfl
  emptied _ := rfl

end SimulatedDongle

end Switchboard
