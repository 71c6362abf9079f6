import Mathlib.Data.List.Induction
import Switchboard.Proofs.Device.JokeTurns
import Switchboard.Proofs.Device.Pings
import Switchboard.Proofs.Device.Wording
import Switchboard.Proofs.Device.ZigBeeTurns
import Switchboard.Proofs.Router.Answers
import Switchboard.Proofs.Router.LateMenus

/-!
Where goodbyes come from. Only the jokes say goodbye, when they ask whether to go on and are told not to. No
name, no text of a controller and nothing that the hardware does makes any other message a goodbye.
-/

namespace Switchboard

section protocols

variable {R D : Type}

theorem KnockKnock.goodbye_iff {k : KnockKnock} (calm : k.prompt ≠ goodbye) (frank : k.Frank) (p : Payload) :
    (k.process p).1.isTerminal = true ↔
      k.Asks ∧ Text.eqIgnoreCase p.effectiveAction "n" = true := by
  have turn := k.turn_process p
  rw [Payload.isTerminal, k.response_process, beq_iff_eq, Option.some.injEq]
  generalize (k.process p).2 = next at turn
  -- Outside of the question nothing is declined.
  have apart {state : JokeState} (other : state ≠ .askedAgain) (here : k.state = state) {said : String}
      (unlike : said ≠ goodbye) :
      said = goodbye ↔ k.Asks ∧ Text.eqIgnoreCase p.effectiveAction "n" = true := by
    refine iff_of_false unlike ?_
    rintro ⟨asks, -⟩
    exact other (here.symm.trans asks.1)
  have kept {said : String} (unlike : said ≠ goodbye)
      (wrong : Text.eqIgnoreCase p.effectiveAction "n" = false) :
      said = goodbye ↔ k.Asks ∧ Text.eqIgnoreCase p.effectiveAction "n" = true := by
    refine iff_of_false unlike ?_
    rintro ⟨-, no⟩
    rw [wrong] at no
    cases no
  cases turn with
  | pinged asks => exact kept calm (by rw [asks]; decide)
  | reset asks => exact kept (by decide) (by rw [asks]; decide)
  | line next _ _ line =>
      have jokes := k.joke_mem
      cases line with
      | unknown state =>
          have spaced : Text.Spaced ("Unknown action: " ++ p.effectiveAction ++ ". " ++ k.prompt) :=
            .append (.append (.append (by decide) _) _) _
          exact apart (by decide) state spaced.ne_goodbye
      | started state => exact apart (by decide) state (show "Knock! Knock!" ≠ goodbye by decide)
      | puzzled state =>
          have spaced : Text.Spaced (correction "Who's there?") := .after (by decide +kernel) _
          exact apart (by decide) state spaced.ne_goodbye
      | asked state =>
          have clues : ∀ joke ∈ ("", "") :: Switchboard.jokes, joke.1 ≠ goodbye := by decide
          exact apart (by decide) state (clues _ jokes)
      | missed state =>
          have spaced : Text.Spaced (correction k.clueQuestion) := .after (by decide +kernel) _
          exact apart (by decide) state spaced.ne_goodbye
      | solved state =>
          have spaced : Text.Spaced (k.punchline ++ " Want another? (y/n)") := .after (by decide) _
          exact apart (by decide) state spaced.ne_goodbye
      | another _ yes =>
          refine kept (show "Knock! Knock!" ≠ goodbye by decide) ?_
          have small := beq_iff_eq.mp yes
          rw [Text.eqIgnoreCase, small]
          decide
      | declined state no => exact iff_of_true rfl ⟨frank state, no⟩
      | unsure _ _ noNo => exact kept (show "Want another? (y/n)" ≠ goodbye by decide) noNo

namespace Device

/-- Jokes that wait for an answer have put the question. -/
def Frank : Device → Prop
  | knockKnock k => k.Frank
  | rfSwitch _ => True
  | zigBee _ => True

theorem frank_process {d : Device} (frank : d.Frank) (p : Payload) (h : Hardware R D) :
    (d.process p h).2.1.Frank := by
  cases d with
  | knockKnock k => exact (k.turn_process p).frank frank
  | rfSwitch r => exact trivial
  | zigBee z => exact trivial

/-- A request puts nothing out: only the workers do. -/
theorem outbox_process (d : Device) (p : Payload) (h : Hardware R D) :
    (d.process p h).2.2.outbox = h.outbox := by
  cases d with
  | knockKnock k => rfl
  | rfSwitch r => exact (rfTurn_process r h p).outbox_eq
  | zigBee z => exact (zigBeeTurn_process z p h).outbox_eq

theorem kept (config : DeviceConfig) :
    Kept (config.registry (R := R) (D := D)) Frank Hardware.Worded where
  built selector name h d h' built worded := by
    obtain ⟨entry, offered, -, made⟩ := DeviceConfig.offered_of_build built
    cases offered with
    | knockKnock =>
        cases made
        refine ⟨?_, worded⟩
        intro asked
        cases asked
    | rfSwitch =>
        cases made
        exact ⟨trivial, worded⟩
    | zigBee =>
        simp only [startZigBee] at made
        split at made
        · cases made
          exact ⟨trivial, worded⟩
        · cases made
  process d p h frank worded := by
    refine ⟨frank_process frank p h, ?_⟩
    change Hardware.Worded (d.process p h).2.2
    rw [Hardware.Worded, outbox_process]
    exact worded

end Device

end protocols

section router

variable {R D : Type}

/-- The jokes were active and asking, and were told not to go on; the answer is theirs. -/
def Answer.Declined (a : Answer (Hardware R D) Device) : Prop :=
  ∃ selector k, a.router.state = .delegating selector ∧
    a.router.instance? selector = some (.knockKnock k) ∧ k.Asks ∧
    Text.eqIgnoreCase a.request.payload.effectiveAction "n" = true ∧
    a.reply = (k.process a.request.payload).1.decorate knockKnockKey

theorem Answer.not_declined {a : Answer (Hardware R D) Device}
    (other : Text.eqIgnoreCase a.request.payload.effectiveAction "n" = false) : ¬a.Declined := by
  rintro ⟨-, -, -, -, -, no, -⟩
  rw [other] at no
  cases no

theorem Answer.plain {a : Answer (Hardware R D) Device} (spaced : a.reply.Spaced) (other : ¬a.Declined) :
    a.reply.isTerminal = true ↔ a.Declined :=
  iff_of_false (Bool.eq_false_iff.mp spaced.not_terminal) other

/-- An answer that meets calm protocols, none of which has said goodbye, is a goodbye when it declines. -/
theorem Answer.goodbye_iff {a : Answer (Hardware R D) Device} {registry : Registry (Hardware R D) Device}
    (patient : a.router.Patient registry Device.Calm)
    (frank : ∀ entry ∈ a.router.instances, entry.2.Frank) :
    a.reply.isTerminal = true ↔ a.Declined := by
  have turn := Router.turn_process a.request.payload a.world patient.settled
  have whole : a.reply = (a.router.process a.request.payload a.world).1 := rfl
  cases state : a.router.state with
  | choosing =>
      rw [Router.process, state] at whole
      refine plain (whole ▸ a.router.spaced_choose _ _) ?_
      rintro ⟨selector, k, chosen, -⟩
      rw [state] at chosen
      cases chosen
  | delegating selector =>
      generalize a.router.process a.request.payload a.world = answered at turn whole
      cases turn with
      | choice _ choosing _ =>
          rw [state] at choosing
          cases choosing
      -- The ways back are the router's, and neither of them declines.
      | left _ i _ _ asks =>
          refine plain ?_ (not_declined (by rw [asks]; decide))
          rw [whole]
          exact ⟨_, rfl, .append (.append (by decide) _) _⟩
      | reset _ i _ _ asks =>
          refine plain ?_ (not_declined (by rw [asks]; decide))
          rw [whole]
          exact ⟨_, rfl, .append (.append (by decide) _) _⟩
      | asked _ d chosen held _ _ =>
          have calm := patient.calm _ (Router.mem_instances held)
          have frank := frank _ (Router.mem_instances held)
          have jokes (declined : a.Declined) : ∃ k, d = .knockKnock k := by
            obtain ⟨selector', k, chosen', held', -⟩ := declined
            obtain rfl := RouterState.delegating.inj (chosen.symm.trans chosen')
            exact ⟨k, Option.some.inj (held.symm.trans held')⟩
          cases d with
          | knockKnock k =>
              have same : a.reply.isTerminal = (k.process a.request.payload).1.isTerminal := by
                rw [whole]
                rfl
              rw [same, k.goodbye_iff calm frank]
              constructor
              · rintro ⟨asks, no⟩
                exact ⟨_, k, chosen, held, asks, no, whole⟩
              · rintro ⟨selector', k', chosen', held', asks, no, -⟩
                obtain rfl := RouterState.delegating.inj (chosen.symm.trans chosen')
                obtain rfl := Device.knockKnock.inj (Option.some.inj (held.symm.trans held'))
                exact ⟨asks, no⟩
          | rfSwitch r =>
              refine plain (whole ▸ r.spaced_process _ _) fun declined => ?_
              obtain ⟨k, other⟩ := jokes declined
              cases other
          | zigBee z =>
              refine plain (whole ▸ z.spaced_process _ _) fun declined => ?_
              obtain ⟨k, other⟩ := jokes declined
              cases other

end router

/-- What happens to a connection of the server. -/
inductive HandlerStep (R D : Type)
  | receive (bytes : List UInt8)
  /-- The worker of the radio takes a job, of this connection or of another. -/
  | radio
  | dongle
  /-- Anything else becomes of the hardware, its queues included; only the workers put messages out. -/
  | elsewhere (f : Hardware R D → Hardware R D)
  /-- The messages that wait for the connection are taken. -/
  | collect

/-- A connection with the hardware, and everything that it sent. -/
structure HandlerRun (R D : Type) where
  connection : Connection (Hardware R D) Device
  hardware : Hardware R D
  replies : List Payload := []
  /-- For each reply what its request met. -/
  answers : List (Answer (Hardware R D) Device) := []
  /-- What protocols sent on their own, as it was fitted to the menu. -/
  late : List Payload := []

namespace HandlerRun

variable {R D : Type} [Radio R] [Dongle D]

def step (r : HandlerRun R D) : HandlerStep R D → HandlerRun R D
  | .receive bytes =>
    let (replies, connection, hardware) := r.connection.receive bytes r.hardware
    { r with
      connection
      hardware
      replies := r.replies ++ replies
      answers := r.answers ++ r.connection.answersTo bytes r.hardware }
  | .radio => { r with hardware := r.hardware.stepRadio }
  | .dongle => { r with hardware := r.hardware.stepDongle }
  | .elsewhere f => { r with hardware := { f r.hardware with outbox := r.hardware.outbox } }
  | .collect =>
    let (messages, hardware) := r.hardware.takeOutbox r.connection.router.connection
    { r with hardware, late := r.late ++ messages.map r.connection.annotate }

/-- A new connection. -/
def start (config : DeviceConfig) (name : String) (limit : Nat) (h : Hardware R D) : HandlerRun R D where
  connection := { router := { registry := config.registry, connection := name }, framer := { limit } }
  hardware := h

def after (config : DeviceConfig) (name : String) (limit : Nat) (radio : R) (dongle : D)
    (hasRadio hasDongle : Bool) (steps : List (HandlerStep R D)) : HandlerRun R D :=
  steps.foldl step (start config name limit (.attach radio dongle hasRadio hasDongle))

theorem after_concat (config : DeviceConfig) (name : String) (limit : Nat) (radio : R) (dongle : D)
    (hasRadio hasDongle : Bool) (steps : List (HandlerStep R D)) (s : HandlerStep R D) :
    after config name limit radio dongle hasRadio hasDongle (steps ++ [s]) =
      (after config name limit radio dongle hasRadio hasDongle steps).step s := by
  rw [after, List.foldl_append]
  rfl

end HandlerRun

/-- Where the goodbyes of a connection come from. -/
structure GoodbyeOrigin {R D : Type} (r : HandlerRun R D) : Prop where
  replies_eq : r.replies = r.answers.map Answer.reply
  goodbye_iff : ∀ a ∈ r.answers, a.reply.isTerminal = true ↔ a.Declined
  late : ∀ p ∈ r.late, p.isTerminal = false

/-- A connection that is as its protocols and the hardware leave it. -/
structure Attentive {R D : Type} (config : DeviceConfig) (r : HandlerRun R D) : Prop where
  origin : GoodbyeOrigin r
  sound : Router.Sound config.registry Device.Frank Hardware.Worded r.connection.router r.hardware
  /-- Until a goodbye no protocol has said goodbye. -/
  patient : r.connection.finished = false → r.connection.router.Patient config.registry Device.Calm

namespace Attentive

variable {R D : Type} {config : DeviceConfig} {r : HandlerRun R D}

theorem start (config : DeviceConfig) (name : String) (limit : Nat) {h : Hardware R D}
    (worded : h.Worded) : Attentive config (HandlerRun.start config name limit h) where
  origin := ⟨rfl, nofun, nofun⟩
  sound := ⟨Router.settled_of_choosing rfl, rfl, nofun, worded⟩
  patient _ := ⟨Router.settled_of_choosing rfl, rfl, List.nodup_nil, nofun⟩

/-- An answer that is no goodbye to a line leaves every protocol calm. -/
theorem patient_step (a : Answer (Hardware R D) Device)
    (patient : a.router.Patient config.registry Device.Calm) (still : a.exchange.ends = false) :
    a.result.2.1.Patient config.registry Device.Calm := by
  refine patient.process (Device.restful config) ?_
  obtain ⟨router, h, request⟩ := a
  cases request with
  | message p => exact still
  | overlong =>
      obtain ⟨reply, answered, quiet⟩ :=
        patient.process_ping (Device.restful config) (p := .ping) rfl h
      change (router.process .ping h).1.isTerminal = false
      rw [answered]
      exact quiet

theorem answers (r' : Attentive config r) (still : r.connection.finished = false) (bytes : List UInt8) :
    ∀ a ∈ r.connection.answersTo bytes r.hardware,
      a.router.Patient config.registry Device.Calm ∧
        Router.Sound config.registry Device.Frank Hardware.Worded a.router a.world := by
  rw [Connection.answersTo_of_open still]
  refine Router.forall_answers
    (P := fun router h => router.Patient config.registry Device.Calm ∧
      Router.Sound config.registry Device.Frank Hardware.Worded router h) ?_
    ⟨r'.patient still, r'.sound⟩ _
  rintro a ⟨patient, sound⟩ open'
  exact ⟨patient_step a patient open', sound.process (Device.kept config) _⟩

theorem receive [Radio R] [Dongle D] (h : Attentive config r) (bytes : List UInt8) :
    Attentive config (r.step (.receive bytes)) := by
  have replied := r.connection.receive_answers bytes r.hardware
  cases finished : r.connection.finished with
  | true =>
      have silent : r.connection.answersTo bytes r.hardware = [] := by
        rw [Connection.answersTo, if_pos finished]
      rw [HandlerRun.step, Connection.receive_of_finished finished, silent]
      refine ⟨⟨?_, ?_, h.origin.late⟩, h.sound, h.patient⟩
      · exact (List.append_nil _).trans (h.origin.replies_eq.trans (by rw [List.append_nil]))
      · rw [List.append_nil]
        exact h.origin.goodbye_iff
  | false =>
      obtain ⟨reached, ended⟩ := Connection.receive_reached finished bytes r.hardware
      have met := h.answers finished bytes
      have sound := Router.afterAll_kept (fun a sound => sound.process (Device.kept config) _) h.sound
        ((r.connection.answersTo bytes r.hardware).map Answer.request)
      rw [← reached] at sound
      refine ⟨⟨?_, ?_, h.origin.late⟩, sound, ?_⟩
      · change r.replies ++ (r.connection.receive bytes r.hardware).1 = (r.answers ++ _).map Answer.reply
        rw [replied, List.map_append, ← h.origin.replies_eq]
      · intro a member
        rcases List.mem_append.mp member with before | new
        · exact h.origin.goodbye_iff a before
        · exact Answer.goodbye_iff (met a new).1 (met a new).2.instances
      · intro open'
        change (r.connection.receive bytes r.hardware).2.1.finished = false at open'
        rw [ended, Connection.answersTo_of_open finished] at open'
        have patient := Router.afterAll_answers
          (P := fun router _ => router.Patient config.registry Device.Calm)
          patient_step (h.patient finished) open'
        rw [← Connection.answersTo_of_open finished, ← reached] at patient
        exact patient

theorem world {h : Hardware R D} (r' : Attentive config r) (worded : h.Worded) :
    Attentive config { r with hardware := h } :=
  ⟨⟨r'.origin.replies_eq, r'.origin.goodbye_iff, r'.origin.late⟩,
    ⟨r'.sound.settled, r'.sound.registry_eq, r'.sound.instances, worded⟩, r'.patient⟩

theorem collect [Radio R] [Dongle D] (h : Attentive config r) : Attentive config (r.step .collect) := by
  have kept : ∀ entry ∈ r.hardware.outbox.filter (·.1 != r.connection.router.connection), entry.2.Spaced :=
    fun entry member => h.sound.world entry (List.mem_filter.mp member).1
  refine ⟨⟨h.origin.replies_eq, h.origin.goodbye_iff, ?_⟩,
    ⟨h.sound.settled, h.sound.registry_eq, h.sound.instances, kept⟩, h.patient⟩
  intro p member
  rcases List.mem_append.mp member with before | new
  · exact h.origin.late p before
  · obtain ⟨message, taken, rfl⟩ := List.mem_map.mp new
    obtain ⟨entry, waits, rfl⟩ := List.mem_map.mp taken
    have spaced : entry.2.Spaced := h.sound.world entry (List.mem_filter.mp waits).1
    change (r.connection.router.annotate entry.2).isTerminal = false
    rw [Router.annotate_eq]
    exact spaced.not_terminal

theorem step [Radio R] [Dongle D] (h : Attentive config r) (s : HandlerStep R D) :
    Attentive config (r.step s) := by
  cases s with
  | receive bytes => exact h.receive bytes
  | radio => exact h.world h.sound.world.stepRadio
  | dongle => exact h.world h.sound.world.stepDongle
  | elsewhere f => exact h.world h.sound.world
  | collect => exact h.collect

end Attentive

theorem goodbye_origin {R D : Type} [Radio R] [Dongle D] (config : DeviceConfig) (name : String)
    (limit : Nat) (radio : R) (dongle : D) (hasRadio hasDongle : Bool) (steps : List (HandlerStep R D)) :
    GoodbyeOrigin (HandlerRun.after config name limit radio dongle hasRadio hasDongle steps) := by
  suffices attentive : Attentive config
      (HandlerRun.after config name limit radio dongle hasRadio hasDongle steps) from attentive.origin
  induction steps using List.reverseRecOn with
  | nil => exact Attentive.start config name limit nofun
  | append_singleton steps s ih =>
      rw [HandlerRun.after_concat]
      exact ih.step s

/-- A joke is told to the end, and then comes the goodbye. -/
example :
    (HandlerRun.after {} "c" 100 ({} : SimulatedRadio) ({} : SimulatedDongle) true true
      [.receive "[\"\",\"KnockKnock\"]\n[\"\",\"Start\"]\n[\"\",\"Who's there?\"]\n".toUTF8.toList,
        .receive "[\"\",\"turnip WHO?\"]\n[\"\",\"N\"]\n[]\n".toUTF8.toList]).replies.map
          Payload.isTerminal = [false, false, false, false, true] := by
  decide +kernel

end Switchboard
