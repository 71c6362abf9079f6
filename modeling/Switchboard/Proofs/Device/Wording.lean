import Switchboard.Proofs.Device.RfTurns
import Switchboard.Proofs.Hardware.DongleJobs
import Switchboard.Proofs.Service.Record
import Switchboard.Device.Registry

/-!
How messages are worded. A goodbye is a single word, and everything that the switches, the network or the
chooser say has a space of its own, whatever names and texts are put in.
-/

namespace Switchboard

def Text.Spaced (text : String) : Prop :=
  ' ' ∈ text.toList

instance (text : String) : Decidable (Text.Spaced text) :=
  inferInstanceAs (Decidable (' ' ∈ text.toList))

/-- Says something with a space. -/
def Payload.Spaced (p : Payload) : Prop :=
  ∃ said, p.response = some said ∧ Text.Spaced said

namespace Text

variable {a b : String}

theorem Spaced.append (spaced : Spaced a) (rest : String) : Spaced (a ++ rest) := by
  rw [Spaced, String.toList_append]
  exact List.mem_append_left _ spaced

theorem Spaced.after (spaced : Spaced b) (start : String) : Spaced (start ++ b) := by
  rw [Spaced, String.toList_append]
  exact List.mem_append_right _ spaced

/-- Lines with a space still have one when they are joined. -/
theorem Spaced.intercalate {lines : List String} (spaced : ∀ line ∈ lines, Spaced line)
    (some : lines ≠ []) (between : String) : Spaced (between.intercalate lines) := by
  obtain ⟨first, others, rfl⟩ := List.exists_cons_of_ne_nil some
  rw [Spaced, String.toList_intercalate, List.map_cons, ServiceRecord.intercalate_cons]
  exact List.mem_append_left _ (spaced first List.mem_cons_self)

theorem Spaced.ne_goodbye (spaced : Spaced a) : a ≠ goodbye := by
  rintro rfl
  exact absurd spaced (by decide)

end Text

theorem Payload.Spaced.not_terminal {p : Payload} (spaced : p.Spaced) : p.isTerminal = false := by
  obtain ⟨said, told, space⟩ := spaced
  rw [isTerminal, told, beq_eq_false_iff_ne]
  exact fun same => space.ne_goodbye (Option.some.inj same)

open Text (Spaced)

theorem ArgumentSchema.spaced_challenge (schema : ArgumentSchema) (key : String) (commands : List String) :
    (schema.challenge key commands).Spaced :=
  ⟨_, rfl, .append (.after (by decide) _) _⟩

theorem Negotiation.spaced_malformed {α : Type} [CommandArguments α] {data : Option String}
    {schema : ArgumentSchema} {reason : String}
    (outcome : negotiate (α := α) data schema = .malformed reason) : Spaced reason := by
  obtain ⟨rest, rfl⟩ := malformed_of_negotiate outcome
  exact .append (by decide) rest

section replies

variable {R D : Type}

namespace RfSwitch

variable {r : RfSwitch} {h : Hardware R D}

theorem spaced_status (r : RfSwitch) (h : Hardware R D) : Spaced (r.status h) := by
  rw [status]
  cases r.negotiator.pending with
  | none => exact .after (by decide) _
  | some command => exact .after (by decide) _

theorem spaced_list (r : RfSwitch) (h : Hardware R D) : (r.list h).Spaced := by
  refine ⟨_, rfl, ?_⟩
  split
  · decide
  · next listed =>
      refine Spaced.intercalate ?_ (by simpa using listed) "\n"
      intro line member
      obtain ⟨s, -, rfl⟩ := List.mem_map.mp member
      exact .append (.after (by decide) s.name) _

theorem spaced_transmit {action switch reason : String} {code : UInt32} {on : Bool}
    (refused : r.transmit h action switch code on = .error reason) : Spaced reason := by
  rw [transmit] at refused
  split at refused
  · cases refused
  · cases refused
    exact .append (by decide) _

theorem spaced_transmitOff {switches : List Switch} {h' : Hardware R D} {reason : String}
    (refused : r.transmitOff switches h = (.error reason, h')) : Spaced reason := by
  induction switches generalizing h with
  | nil => cases refused
  | cons s rest ih =>
      rw [transmitOff] at refused
      split at refused
      · exact ih refused
      · next outcome =>
          cases refused
          exact spaced_transmit outcome

theorem spaced_execute (r : RfSwitch) (h : Hardware R D) (action switch : String) (on : Bool) :
    (r.execute h action switch on).1.Spaced := by
  rw [execute]
  split
  · exact ⟨_, rfl, .append (by decide) switch⟩
  · split
    · exact ⟨_, rfl, .append (.append (.after (by decide) _) switch) _⟩
    · next refused => exact ⟨_, rfl, spaced_transmit refused⟩

theorem spaced_switchTo (action : String) (on : Bool) (data : Option String) :
    (r.switchTo h action on data).1.Spaced := by
  rw [switchTo]
  split
  · exact ⟨_, rfl, .after (by decide) _⟩
  · simp only [Negotiator.negotiate]
    split
    · exact spaced_execute _ h action _ on
    · exact ArgumentSchema.spaced_challenge _ _ _
    · next malformed => exact ⟨_, rfl, Negotiation.spaced_malformed malformed⟩

theorem spaced_allOff : (r.allOff h).1.Spaced := by
  rw [allOff]
  split
  · exact ⟨_, rfl, by decide⟩
  · dsimp only
    split
    · exact ⟨_, rfl, .after (by decide) _⟩
    · next refused => exact ⟨_, rfl, spaced_transmitOff refused⟩

theorem spaced_add (data : Option String) : (r.add h data).1.Spaced := by
  rw [add]
  dsimp only [Negotiator.negotiate]
  cases outcome : Negotiation.negotiate (α := AddSwitchArguments) data
    (CommandArguments.schema AddSwitchArguments) with
  | challenge schema => exact schema.spaced_challenge _ _
  | malformed reason => exact ⟨_, rfl, Negotiation.spaced_malformed outcome⟩
  | ready arguments =>
      dsimp only
      split
      · exact ⟨_, rfl, .after (by decide) _⟩
      · exact ⟨_, rfl, .append (by decide) _⟩

theorem spaced_remove (data : Option String) : (r.remove h data).1.Spaced := by
  rw [remove]
  dsimp only [Negotiator.negotiate]
  split
  · exact ArgumentSchema.spaced_challenge _ _ _
  · next malformed => exact ⟨_, rfl, Negotiation.spaced_malformed malformed⟩
  · split
    · exact ⟨_, rfl, .append (by decide) _⟩
    · exact ⟨_, rfl, .append (by decide) _⟩

theorem spaced_process (r : RfSwitch) (p : Payload) (h : Hardware R D) : (r.process p h).1.Spaced := by
  rw [process]
  split
  · exact ⟨_, rfl, r.spaced_status h⟩
  · exact ⟨_, rfl, spaced_status _ _⟩
  · exact r.spaced_list h
  · exact spaced_switchTo _ _ _
  · exact spaced_switchTo _ _ _
  · exact spaced_allOff
  · exact spaced_add _
  · exact spaced_remove _
  · exact ⟨_, rfl, .append (by decide) _⟩

end RfSwitch

namespace ZigBee

variable {z : ZigBee} {h : Hardware R D}

theorem spaced_status (z : ZigBee) (h : Hardware R D) : Spaced (z.status h) := by
  rw [status]
  split
  · decide
  · dsimp only
    split
    · exact .after (by decide) _
    · exact .after (by decide) _

theorem spaced_unavailable (action : String) : (z.unavailable h action).Spaced :=
  ⟨_, rfl, .after (by decide) _⟩

theorem spaced_execute (z : ZigBee) (h : Hardware R D) (action : String) {acknowledgement : String}
    (spaced : Spaced acknowledgement) (command : DongleCommand) :
    (z.execute h action acknowledgement command).1.Spaced := by
  rw [execute]
  dsimp only
  split
  · exact ⟨_, rfl, spaced⟩
  · exact ⟨_, rfl, .append (by decide) _⟩

theorem spaced_list : (z.list h).1.Spaced := by
  rw [list]
  split
  · exact spaced_unavailable _
  · exact z.spaced_execute h _ (by decide) _

theorem spaced_withArguments {α : Type} [CommandArguments α] (action : String) (data : Option String)
    (schema : ArgumentSchema) {run : ZigBee → α → Payload × Hardware R D}
    (spaced : ∀ z arguments, (run z arguments).1.Spaced) :
    (z.withArguments h action data schema run).1.Spaced := by
  rw [withArguments]
  split
  · exact spaced_unavailable action
  · dsimp only [Negotiator.negotiate]
    split
    · exact spaced _ _
    · exact ArgumentSchema.spaced_challenge _ _ _
    · next malformed => exact ⟨_, rfl, Negotiation.spaced_malformed malformed⟩

theorem spaced_deviceAction (action description : String) (data : Option String)
    (command : String → DongleCommand) :
    (z.deviceAction h action description data command).1.Spaced := by
  refine spaced_withArguments _ _ _ ?_
  intro z arguments
  exact z.spaced_execute h _ (.append (.append (.after (by decide) _) _) _) _

theorem spaced_process (z : ZigBee) (p : Payload) (h : Hardware R D) : (z.process p h).1.Spaced := by
  rw [process]
  split
  · exact ⟨_, rfl, z.spaced_status h⟩
  · exact ⟨_, rfl, spaced_status _ _⟩
  · exact spaced_list
  · refine spaced_withArguments _ _ _ ?_
    intro z arguments
    exact z.spaced_execute h _ (.append (.append (by decide) _) _) _
  · exact spaced_deviceAction _ _ _ _
  · exact spaced_deviceAction _ _ _ _
  · exact spaced_deviceAction _ _ _ _
  · refine spaced_withArguments _ _ _ ?_
    intro z arguments
    exact z.spaced_execute h _ (.append (.append (.after (by decide) _) _) _) _
  · exact ⟨_, rfl, .append (by decide) _⟩

end ZigBee

end replies

section jobs

variable {R D : Type}

theorem NetworkEvent.spaced_describe (event : NetworkEvent) : Spaced event.describe := by
  cases event with
  | joined device => exact .after (by decide) _
  | left device => exact .after (by decide) _
  | reported device name value => exact .append (.after (by decide) _) _

namespace Hardware

theorem spaced_deviceLine (d : NetworkDevice) : Spaced (deviceLine d) := by
  have line : Spaced (d.id ++ " (" ++ d.name ++ "): " ++ stateName d.on) :=
    .append (.after (by decide) _) _
  rw [deviceLine]
  split
  · exact (line.append _).append _
  · exact line

theorem spaced_deviceList (devices : List NetworkDevice) : (deviceList devices).Spaced := by
  refine ⟨_, rfl, ?_⟩
  split
  · decide
  · next listed =>
      refine Spaced.intercalate ?_ (by simpa using listed) "\n"
      intro line member
      obtain ⟨d, -, rfl⟩ := List.mem_map.mp member
      exact spaced_deviceLine d

/-- What a command comes to is told with a space, whatever the dongle does. -/
theorem spaced_perform [Dongle D] {dongle : D} {command : DongleCommand} {reply : Payload}
    (performed : (perform dongle command).1 = .ok reply) : reply.Spaced := by
  have told {α : Type} {answer : Except Failure α} {make : α → Payload} (spaced : ∀ a, (make a).Spaced)
      (made : answer.map make = .ok reply) : reply.Spaced := by
    cases answer with
    | error failure => cases made
    | ok a =>
        cases made
        exact spaced a
  cases command with
  | listDevices => exact told spaced_deviceList performed
  | permitJoin seconds => exact told (fun _ => ⟨_, rfl, .append (.append (by decide) _) _⟩) performed
  | setOnOff device on => exact told (fun _ => ⟨_, rfl, .append (.after (by decide) _) _⟩) performed
  | identify device => exact told (fun _ => ⟨_, rfl, .after (by decide) _⟩) performed
  | setLevel device level => exact told (fun _ => ⟨_, rfl, .append (.after (by decide) _) _⟩) performed

theorem spaced_report (job : DongleJob) {result : Except Failure Payload}
    (spaced : ∀ reply, result = .ok reply → reply.Spaced) : (DongleJob.report job result).Spaced := by
  cases result with
  | ok reply => exact spaced reply rfl
  | error failure => exact ⟨_, rfl, .append (.after (by decide) _) _⟩

/-- Whatever waits to be sent to a connection has a space. -/
def Worded (h : Hardware R D) : Prop :=
  ∀ entry ∈ h.outbox, entry.2.Spaced

variable {h : Hardware R D}

theorem Worded.emit (worded : h.Worded) (connection : String) {p : Payload} (spaced : p.Spaced) :
    (h.emit connection p).Worded := by
  intro entry member
  rcases List.mem_append.mp member with before | new
  · exact worded entry before
  · rw [List.mem_singleton.mp new]
    exact spaced

theorem Worded.runRadio [Radio R] (worded : h.Worded) (job : RadioJob) : (h.runRadio job).Worded := by
  rw [Hardware.runRadio]
  dsimp only
  split
  · refine Worded.emit ?_ job.connection ⟨_, rfl, .append (.after (by decide) _) _⟩
    exact worded
  · refine Worded.emit ?_ job.connection
      ⟨_, rfl, .append (.append (.append (.after (by decide) _) _) _) _⟩
    exact worded
  · exact worded

theorem Worded.stepRadio [Radio R] (worded : h.Worded) : h.stepRadio.Worded := by
  rw [Hardware.stepRadio]
  split
  · exact worded
  · exact worded
  · next job queue _ => exact Worded.runRadio (h := { h with radioQueue := queue }) worded job

theorem Worded.stepDongle [Dongle D] (worded : h.Worded) : h.stepDongle.Worded := by
  rw [Hardware.stepDongle]
  split
  · exact worded
  · exact worded
  · next job queue _ =>
      rw [Worded, runDongle_eq]
      intro entry member
      rcases List.mem_append.mp member with before | new
      · exact worded entry before
      · rw [DongleJob.messages, List.mem_cons, List.mem_map] at new
        rcases new with rfl | ⟨event, -, rfl⟩
        · refine spaced_report job ?_
          intro reply performed
          exact spaced_perform performed
        · exact ⟨_, rfl, event.spaced_describe⟩

end Hardware

end jobs

section chooser

variable {W I : Type} [Protocol W I]

namespace Router

omit [Protocol W I] in
theorem spaced_chooserReply (r : Router W I) {said : String} (spaced : Spaced said) :
    (r.chooserReply said).Spaced :=
  ⟨said, rfl, spaced⟩

theorem spaced_enter (r : Router W I) (selector : String) (i : I) (w : W) :
    (r.enter selector i w).1.Spaced :=
  ⟨_, rfl, .append (.append (.append (by decide) _) _) _⟩

/-- Whatever the protocols would say, the chooser says it with a space. -/
theorem spaced_choose (r : Router W I) (p : Payload) (w : W) : (r.choose p w).1.Spaced := by
  simp only [choose]
  split
  · exact r.spaced_chooserReply (by decide)
  · split
    · rw [select]
      split
      · exact r.spaced_enter _ _ w
      · split
        · exact r.spaced_chooserReply (.append (.append (.append (by decide) _) _) _)
        · exact spaced_enter _ _ _ _
    · exact r.spaced_chooserReply (.append (.append (by decide) _) _)

end Router

end chooser

end Switchboard
