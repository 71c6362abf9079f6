import Switchboard.Proofs.Router.Pings
import Switchboard.Proofs.Device.Menus
import Switchboard.Proofs.Device.Wording

/-!
Lines that read as a ping, among them what is no message at all, can be put in anywhere between the lines
of a connection: each of them is answered, by no goodbye, and nothing else comes of it.
-/

namespace Switchboard

variable {R D : Type}

theorem KnockKnock.response_process (k : KnockKnock) (p : Payload) :
    (k.process p).1.response = some (k.process p).2.prompt := by
  rw [process]
  split
  · rfl
  · split
    · rfl
    · rw [reply]
      split
      · split <;> rfl
      · split <;> rfl
      · split <;> rfl
      · split
        · rfl
        · split <;> rfl

namespace Device

/-- A protocol that would not answer a ping with a goodbye. -/
def Calm : Device → Prop
  | knockKnock k => k.prompt ≠ goodbye
  | rfSwitch _ => True
  | zigBee _ => True

theorem process_ping {d : Device} (calm : d.Calm) {p : Payload} (ping : p.isPing = true)
    (h : Hardware R D) : ∃ reply, d.process p h = (reply, d, h) ∧ reply.isTerminal = false := by
  have action : p.effectiveAction = "Ping" := beq_iff_eq.mp ping
  cases d with
  | knockKnock k =>
      refine ⟨k.say Action.ping, ?_, ?_⟩
      · simp only [process, KnockKnock.process, action]
        rfl
      · exact beq_eq_false_iff_ne.mpr fun same => calm (Option.some.inj same)
  | rfSwitch r =>
      refine ⟨r.reply h Action.ping (r.status h), ?_, ?_⟩
      · simp only [process, RfSwitch.process, action]
      · exact Payload.Spaced.not_terminal ⟨_, rfl, r.spaced_status h⟩
  | zigBee z =>
      refine ⟨z.reply h Action.ping (z.status h), ?_, ?_⟩
      · simp only [process, ZigBee.process, action]
      · exact Payload.Spaced.not_terminal ⟨_, rfl, z.spaced_status h⟩

theorem calm_process {d : Device} {p : Payload} {h : Hardware R D}
    (still : (d.process p h).1.isTerminal = false) : (d.process p h).2.1.Calm := by
  cases d with
  | knockKnock k =>
      intro same
      have said : (k.process p).1.isTerminal = false := still
      rw [Payload.isTerminal, k.response_process, beq_eq_false_iff_ne] at said
      exact said (congrArg some same)
  | rfSwitch r => exact trivial
  | zigBee z => exact trivial

theorem calm_reset (d : Device) {p : Payload} (resets : p.effectiveAction = Action.reset)
    (h : Hardware R D) : (d.process p h).2.1.Calm := by
  cases d with
  | knockKnock k =>
      have afresh : (k.process p).2 = {} := by
        simp only [KnockKnock.process, resets]
        rfl
      change (k.process p).2.prompt ≠ goodbye
      rw [afresh]
      decide
  | rfSwitch r => exact trivial
  | zigBee z => exact trivial

theorem restful (config : DeviceConfig) : Restful (config.registry (R := R) (D := D)) Calm where
  ping _ _ h calm ping := process_ping calm ping h
  kept _ _ _ still := calm_process still
  reset d _ h resets := calm_reset d resets h
  built selector name h d h' built := by
    obtain ⟨entry, offered, -, made⟩ := DeviceConfig.offered_of_build built
    cases offered with
    | knockKnock =>
        cases made
        exact (by decide : "Want to hear a joke?" ≠ goodbye)
    | rfSwitch =>
        cases made
        exact trivial
    | zigBee =>
        simp only [startZigBee] at made
        split at made
        · cases made
          exact trivial
        · cases made

end Device

theorem Payload.isPing_iff {p : Payload} :
    p.isPing = true ↔ p.action = none ∨ p.action = some Action.ping := by
  rw [isPing, effectiveAction, beq_iff_eq]
  cases p.action with
  | none => exact iff_of_true rfl (.inl rfl)
  | some action => simp

/-- The lines that read as a ping are those that are no message, and the messages that ask for one. -/
theorem Payload.isPing_ofLine_iff {line : List UInt8} :
    (ofLine line).isPing = true ↔
      ∀ text p, textOfBytes? (dropCarriageReturn line) = some text → decodeStrict text = .ok p →
        p.action = none ∨ p.action = some Action.ping := by
  rw [ofLine]
  cases read : textOfBytes? (dropCarriageReturn line) with
  | none =>
      refine iff_of_true rfl ?_
      intro text p impossible
      cases impossible
  | some text =>
      dsimp only
      rw [decode]
      cases decoded : decodeStrict text with
      | error fault =>
          refine iff_of_true rfl ?_
          intro other p same made
          obtain rfl : text = other := Option.some.inj same
          rw [decoded] at made
          cases made
      | ok p =>
          rw [isPing_iff]
          constructor
          · intro asks other q same made
            obtain rfl : text = other := Option.some.inj same
            rw [decoded] at made
            cases made
            exact asks
          · intro asks
            exact asks text p rfl decoded

theorem Payload.decodeStrict_of_blank {text : String} (blank : Text.trim text = "") :
    ∃ fault, decodeStrict text = .error fault := by
  rw [decodeStrict, blank]
  exact ⟨_, rfl⟩

/-- What pings do to the lines of a connection. -/
structure PingLaw (R D : Type) (config : DeviceConfig) (name : String) (limit : Nat) : Prop where
  reads : ∀ line, (Payload.ofLine line).isPing = true ↔
    ∀ text p, textOfBytes? (dropCarriageReturn line) = some text → Payload.decodeStrict text = .ok p →
      p.action = none ∨ p.action = some Action.ping
  blank : ∀ line text, textOfBytes? (dropCarriageReturn line) = some text → Text.trim text = "" →
    (Payload.ofLine line).isPing = true
  /-- What is put in between the lines and the changes of the hardware is answered and leaves no trace. -/
  inert : ∀ (h : Hardware R D) padded plain marked,
    Fits limit (padded.flatMap Incoming.chunk) → Fits limit (plain.flatMap Incoming.chunk) →
    marked.map Prod.snd = occurrences [] padded →
    (marked.filter fun entry => !entry.1).map Prod.snd = occurrences [] plain →
    (∀ entry ∈ marked, PutsIn entry) →
      let start : Attended (Hardware R D) Device :=
        { connection := { router := { registry := config.registry, connection := name }, framer := { limit } }
          world := h }
      Inert marked (start.after padded) (start.after plain)

theorem ping_law (R D : Type) (config : DeviceConfig) (name : String) (limit : Nat) :
    PingLaw R D config name limit := by
  refine ⟨?_, ?_, ?_⟩
  · intro line
    exact Payload.isPing_ofLine_iff
  · intro line text read blank
    refine Payload.isPing_ofLine_iff.mpr ?_
    intro other p same made
    obtain rfl : text = other := Option.some.inj (read.symm.trans same)
    obtain ⟨fault, unread⟩ := Payload.decodeStrict_of_blank blank
    rw [unread] at made
    cases made
  · intro h padded plain marked fits fits' same same' pings
    refine (Router.unmoved_of_restful (Device.restful config)).inert ?_ fits fits' same same' pings
    exact ⟨Router.settled_of_choosing rfl, rfl, List.nodup_nil, fun _ none => (nomatch none)⟩

end Switchboard
