import Switchboard.Proofs.Router.Pings
import Switchboard.Proofs.Server.Loop

/-!
The answers of a connection, each with the router and the world that its request met. What every turn of the
protocols keeps true of their instances and of the world, the turns of a router keep as well.
-/

namespace Switchboard

/-- A request that was answered, and what it met. -/
structure Answer (W I : Type) where
  router : Router W I
  world : W
  request : StreamRequest

variable {W I : Type} [Protocol W I]

namespace Answer

def result (a : Answer W I) : Payload × Router W I × W :=
  a.router.process a.request.payload a.world

def reply (a : Answer W I) : Payload :=
  a.result.1

def exchange (a : Answer W I) : Exchange :=
  ⟨a.request, a.reply⟩

end Answer

/-- The answers to requests, up to the first goodbye to a line. -/
def Router.answers (r : Router W I) : List StreamRequest → W → List (Answer W I)
  | [], _ => []
  | request :: rest, w =>
    let a : Answer W I := ⟨r, w, request⟩
    if a.exchange.ends then [a] else a :: a.result.2.1.answers rest a.result.2.2

theorem Router.map_exchange_answers (r : Router W I) (requests : List StreamRequest) (w : W) :
    (r.answers requests w).map Answer.exchange = upToGoodbye (r.converse requests w) := by
  induction requests generalizing r w with
  | nil => rfl
  | cons request rest ih =>
      have first : r.converse (request :: rest) w =
          (Answer.mk r w request).exchange ::
            (Answer.mk r w request).result.2.1.converse rest (Answer.mk r w request).result.2.2 := rfl
      rw [first, upToGoodbye_cons, answers]
      split
      · rfl
      · rw [List.map_cons, ih]

section kept

variable {P : Router W I → W → Prop} {r : Router W I} {w : W}

/-- What every answer that is no goodbye to a line leaves true holds where any request is answered. -/
theorem Router.forall_answers
    (step : ∀ a : Answer W I, P a.router a.world → a.exchange.ends = false → P a.result.2.1 a.result.2.2)
    (start : P r w) (requests : List StreamRequest) : ∀ a ∈ r.answers requests w, P a.router a.world := by
  induction requests generalizing r w with
  | nil => exact nofun
  | cons request rest ih =>
      intro a member
      rw [answers] at member
      split at member
      · rw [List.mem_singleton.mp member]
        exact start
      · next open' =>
          rcases List.mem_cons.mp member with rfl | later
          · exact start
          · exact ih (step ⟨r, w, request⟩ start (Bool.eq_false_iff.mpr open')) a later

/-- It holds after them as well, when there was no goodbye to a line among them. -/
theorem Router.afterAll_answers
    (step : ∀ a : Answer W I, P a.router a.world → a.exchange.ends = false → P a.result.2.1 a.result.2.2)
    (start : P r w) {requests : List StreamRequest}
    (still : (r.answers requests w).any (fun a => a.exchange.ends) = false) :
    P (r.afterAll ((r.answers requests w).map Answer.request) w).1
      (r.afterAll ((r.answers requests w).map Answer.request) w).2 := by
  induction requests generalizing r w with
  | nil => exact start
  | cons request rest ih =>
      rw [answers] at still ⊢
      split at still
      · next ends =>
          rw [List.any_cons, ends] at still
          cases still
      · next open' =>
          rw [if_neg open', List.map_cons, afterAll, List.foldl_cons]
          rw [List.any_cons, Bool.or_eq_false_iff] at still
          exact ih (step ⟨r, w, request⟩ start still.1) still.2

/-- What every answer leaves true holds after any requests. -/
theorem Router.afterAll_kept (step : ∀ a : Answer W I, P a.router a.world → P a.result.2.1 a.result.2.2)
    (start : P r w) (requests : List StreamRequest) :
    P (r.afterAll requests w).1 (r.afterAll requests w).2 := by
  induction requests generalizing r w with
  | nil => exact start
  | cons request rest ih => exact ih (step ⟨r, w, request⟩ start)

end kept

namespace Connection

/-- The requests that end with some bytes, and a ping for a line that they make too long. -/
def requestsIn (c : Connection W I) (bytes : List UInt8) : List StreamRequest :=
  let (framer, tooLong) := c.framer.feed bytes
  framer.lines.map .ofLine ++ if tooLong.isSome then [.overlong] else []

/-- The answers to the requests that bytes bring. -/
def answersTo (c : Connection W I) (bytes : List UInt8) (w : W) : List (Answer W I) :=
  if c.finished then [] else c.router.answers (c.requestsIn bytes) w

theorem answersTo_of_open {c : Connection W I} (still : c.finished = false) (bytes : List UInt8) (w : W) :
    c.answersTo bytes w = c.router.answers (c.requestsIn bytes) w := by
  rw [answersTo, still, if_neg Bool.false_ne_true]

theorem receive_answers (c : Connection W I) (bytes : List UInt8) (w : W) :
    (c.receive bytes w).1 = (c.answersTo bytes w).map Answer.reply := by
  cases finished : c.finished with
  | true => rw [receive_of_finished finished, answersTo, if_pos finished, List.map_nil]
  | false =>
      rw [(receive_replies finished bytes w).1, answersTo_of_open finished]
      have same : c.exchangesOf bytes w = upToGoodbye (c.router.converse (c.requestsIn bytes) w) := rfl
      rw [same, ← Router.map_exchange_answers, List.map_map]
      rfl

/-- The router and the world are what the answered requests make of them. -/
theorem receive_reached {c : Connection W I} (still : c.finished = false) (bytes : List UInt8) (w : W) :
    ((c.receive bytes w).2.1.router, (c.receive bytes w).2.2) =
        c.router.afterAll ((c.answersTo bytes w).map Answer.request) w ∧
      (c.receive bytes w).2.1.finished = (c.answersTo bytes w).any fun a => a.exchange.ends := by
  have same : (c.answersTo bytes w).map Answer.exchange = c.exchangesOf bytes w := by
    rw [answersTo_of_open still, Router.map_exchange_answers]
    rfl
  have requests : (c.answersTo bytes w).map Answer.request =
      (c.exchangesOf bytes w).map Exchange.request := by
    rw [← same, List.map_map]
    rfl
  rw [(receive_replies still bytes w).2, requests, ← same, List.any_map]
  refine ⟨?_, rfl⟩
  rw [same, receive_eq still rfl rfl]
  rfl

end Connection

/-- What every construction and every turn of an instance keep true of instances and of the world. -/
structure Kept (registry : Registry W I) (P : I → Prop) (Q : W → Prop) : Prop where
  built : ∀ selector name w i w', registry.build selector name w = .ok (i, w') → Q w → P i ∧ Q w'
  process : ∀ i p w, P i → Q w → P (Protocol.process i p w).2.1 ∧ Q (Protocol.process i p w).2.2

namespace Router

/-- A router of sound instances in a sound world. -/
structure Sound (registry : Registry W I) (P : I → Prop) (Q : W → Prop) (r : Router W I) (w : W) :
    Prop where
  settled : r.Settled
  registry_eq : r.registry = registry
  instances : ∀ entry ∈ r.instances, P entry.2
  world : Q w

namespace Sound

variable {registry : Registry W I} {P : I → Prop} {Q : W → Prop} {r : Router W I} {w : W}

omit [Protocol W I] in
theorem held (sound : Sound registry P Q r w) {selector : String} {i : I}
    (held : r.instance? selector = some i) : P i :=
  sound.instances _ (mem_instances held)

theorem process (sound : Sound registry P Q r w) (kept : Kept registry P Q) (p : Payload) :
    Sound registry P Q (r.process p w).2.1 (r.process p w).2.2 := by
  have turn := turn_process p w sound.settled
  suffices held : (∀ entry ∈ (r.process p w).2.1.instances, P entry.2) ∧ Q (r.process p w).2.2 from
    ⟨settled_process p w sound.settled, turn.registry_eq.trans sound.registry_eq, held.1, held.2⟩
  generalize r.process p w = result at turn ⊢
  cases turn with
  | choice _ _ choice =>
      cases choice with
      | offered _ _ => exact ⟨sound.instances, sound.world⟩
      | refused _ _ _ _ => exact ⟨sound.instances, sound.world⟩
      | resumed i _ held =>
          obtain ⟨good, world⟩ := kept.process i _ w (sound.held held) sound.world
          exact ⟨forall_setInstance sound.instances _ good, world⟩
      | started i w' _ _ built =>
          rw [sound.registry_eq] at built
          obtain ⟨new, began⟩ := kept.built _ _ _ _ _ built sound.world
          obtain ⟨good, world⟩ := kept.process i _ w' new began
          exact ⟨forall_setInstance (forall_addInstance sound.instances _ new) _ good, world⟩
  | left _ _ _ _ _ => exact ⟨sound.instances, sound.world⟩
  | reset selector i _ held _ =>
      obtain ⟨good, world⟩ := kept.process i _ w (sound.held held) sound.world
      exact ⟨forall_setInstance sound.instances selector good, world⟩
  | asked selector i _ held _ _ =>
      obtain ⟨good, world⟩ := kept.process i p w (sound.held held) sound.world
      exact ⟨forall_setInstance sound.instances selector good, world⟩

end Sound

end Router

end Switchboard
