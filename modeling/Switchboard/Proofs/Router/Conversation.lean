import Switchboard.Proofs.Payload.Requests
import Switchboard.Router.Connection

/-!
The conversation of a connection. What a connection replies is what its router replies to the requests of
the stream one after the other, up to the first goodbye to a line. What else acts on the world between two
requests can be taken for a part of the world.
-/

namespace Switchboard

structure Exchange where
  request : StreamRequest
  reply : Payload

/-- Holds of a goodbye to a line. A goodbye to the ping for a line that was too long ends nothing. -/
def Exchange.ends (e : Exchange) : Bool :=
  match e.request with
  | .message _ => e.reply.isTerminal
  | .overlong => false

def Exchange.action (e : Exchange) : String :=
  e.request.payload.effectiveAction

/-- The exchanges up to and including the first goodbye to a line. -/
def upToGoodbye (exchanges : List Exchange) : List Exchange :=
  exchanges.take (exchanges.findIdx Exchange.ends + 1)

section goodbye

variable {earlier : List Exchange}

theorem upToGoodbye_cons (e : Exchange) (rest : List Exchange) :
    upToGoodbye (e :: rest) = if e.ends then [e] else e :: upToGoodbye rest := by
  rw [upToGoodbye, List.findIdx_cons]
  cases e.ends with
  | true => rfl
  | false => rfl

/-- A goodbye to a line comes last. -/
theorem pairwise_upToGoodbye (exchanges : List Exchange) :
    (upToGoodbye exchanges).Pairwise fun e _ => e.ends = false := by
  induction exchanges with
  | nil => exact List.Pairwise.nil
  | cons e rest ih =>
      rw [upToGoodbye_cons]
      split
      case isTrue _ => exact List.pairwise_singleton _ _
      case isFalse still =>
        exact List.pairwise_cons.mpr ⟨fun _ _ => Bool.eq_false_iff.mpr still, ih⟩

theorem upToGoodbye_append_of_open (still : earlier.any Exchange.ends = false)
    (later : List Exchange) : upToGoodbye (earlier ++ later) = earlier ++ upToGoodbye later := by
  have past : earlier.findIdx Exchange.ends = earlier.length := by
    rw [List.findIdx_eq_length]
    simpa using still
  rw [upToGoodbye, List.findIdx_append, past, if_neg (Nat.lt_irrefl _), Nat.add_comm _ earlier.length,
    Nat.add_assoc, List.take_length_add_append, upToGoodbye]

theorem upToGoodbye_of_open (still : earlier.any Exchange.ends = false) :
    upToGoodbye earlier = earlier := by
  simpa [upToGoodbye] using upToGoodbye_append_of_open still []

theorem upToGoodbye_append_of_ended (ended : earlier.any Exchange.ends = true)
    (later : List Exchange) : upToGoodbye (earlier ++ later) = upToGoodbye earlier := by
  have inside : earlier.findIdx Exchange.ends < earlier.length :=
    List.findIdx_lt_length.mpr (List.any_eq_true.mp ended)
  rw [upToGoodbye, List.findIdx_append, if_pos inside, List.take_append_of_le_length inside,
    upToGoodbye]

theorem any_upToGoodbye (exchanges : List Exchange) :
    (upToGoodbye exchanges).any Exchange.ends = exchanges.any Exchange.ends := by
  cases ended : exchanges.any Exchange.ends with
  | false => rw [upToGoodbye_of_open ended, ended]
  | true =>
      have inside : exchanges.findIdx Exchange.ends < exchanges.length :=
        List.findIdx_lt_length.mpr (List.any_eq_true.mp ended)
      rw [List.any_eq_true]
      refine ⟨exchanges[exchanges.findIdx Exchange.ends], ?_, List.findIdx_getElem⟩
      rw [upToGoodbye, List.take_succ_eq_append_getElem inside]
      exact List.mem_append_right _ (List.mem_singleton_self _)

end goodbye

namespace Router

variable {W I : Type} [Protocol W I]

/-- What a router replies to requests one after the other. -/
def converse (r : Router W I) : List StreamRequest → W → List Exchange
  | [], _ => []
  | request :: rest, w =>
    let (reply, r, w) := r.process request.payload w
    ⟨request, reply⟩ :: r.converse rest w

def afterAll (r : Router W I) (requests : List StreamRequest) (w : W) : Router W I × W :=
  requests.foldl (fun (r, w) request => (r.process request.payload w).2) (r, w)

theorem converse_append (r : Router W I) (earlier later : List StreamRequest) (w : W) :
    r.converse (earlier ++ later) w =
      r.converse earlier w ++ (r.afterAll earlier w).1.converse later (r.afterAll earlier w).2 := by
  induction earlier generalizing r w with
  | nil => rfl
  | cons request rest ih =>
      simp only [List.cons_append, converse, ih]
      rfl

theorem afterAll_append (r : Router W I) (earlier later : List StreamRequest) (w : W) :
    r.afterAll (earlier ++ later) w =
      (r.afterAll earlier w).1.afterAll later (r.afterAll earlier w).2 := by
  rw [afterAll, List.foldl_append]
  rfl

theorem map_request_converse (r : Router W I) (requests : List StreamRequest) (w : W) :
    (r.converse requests w).map Exchange.request = requests := by
  induction requests generalizing r w with
  | nil => rfl
  | cons request rest ih => simp only [converse, List.map_cons, ih]

end Router

namespace Connection

variable {W I : Type} [Protocol W I]

/-- What a connection gives and becomes with some exchanges. -/
def exchange (c : Connection W I) (exchanges : List Exchange) (w : W) :
    List Payload × Connection W I × W :=
  let (router, w) := c.router.afterAll (exchanges.map Exchange.request) w
  (exchanges.map Exchange.reply,
    { c with
      router
      finished := c.finished || exchanges.any Exchange.ends
      handled := c.handled ++ exchanges.map Exchange.action }, w)

variable {c : Connection W I} {w : W}

theorem exchange_nil : c.exchange [] w = ([], c, w) := by
  simp [exchange, Router.afterAll]

theorem exchange_cons (request : StreamRequest) {reply : Payload} {router : Router W I} {w' : W}
    (processed : c.router.process request.payload w = (reply, router, w')) (later : List Exchange) :
    c.exchange (⟨request, reply⟩ :: later) w =
      let (replies, c, w) :=
        { c with
          router
          finished := c.finished || (Exchange.mk request reply).ends
          handled := c.handled ++ [request.payload.effectiveAction] }.exchange later w'
      (reply :: replies, c, w) := by
  simp [exchange, Router.afterAll, Exchange.action, processed, Bool.or_assoc]

theorem exchange_append (earlier later : List Exchange) :
    c.exchange (earlier ++ later) w =
      let (replies, c, w) := c.exchange earlier w
      let (more, c, w) := c.exchange later w
      (replies ++ more, c, w) := by
  simp [exchange, Router.afterAll_append, Bool.or_assoc]

theorem exchange_converse (requests : List StreamRequest) :
    c.exchange (c.router.converse requests w) w =
      ((c.router.converse requests w).map Exchange.reply,
        { c with
          router := (c.router.afterAll requests w).1
          finished := c.finished || (c.router.converse requests w).any Exchange.ends
          handled := c.handled ++ (c.router.converse requests w).map Exchange.action },
        (c.router.afterAll requests w).2) := by
  rw [exchange, Router.map_request_converse]

/-- Messages that are handled make the exchanges of the router with them, up to the first goodbye. -/
theorem handleAll_eq (c : Connection W I) (messages : List Payload) (w : W) :
    c.handleAll messages w =
      c.exchange (upToGoodbye (c.router.converse (messages.map .message) w)) w := by
  induction messages generalizing c w with
  | nil => exact exchange_nil.symm
  | cons p rest ih =>
      cases processed : c.router.process p w with
      | mk reply next =>
          obtain ⟨router, w'⟩ := next
          have handled : c.handle p w =
              (reply, { c with router, handled := c.handled ++ [p.effectiveAction] }, w') := by
            rw [handle, processed]
          have ends : (Exchange.mk (.message p) reply).ends = reply.isTerminal := rfl
          have turn := exchange_cons (.message p) processed
          simp only [List.map_cons, handleAll, handled, Router.converse, StreamRequest.payload, processed,
            upToGoodbye_cons, ih, ends]
          split
          case isTrue goodbye =>
            rw [turn, exchange_nil, ends, goodbye, Bool.or_true]
            rfl
          case isFalse still' =>
            rw [turn, ends, Bool.eq_false_iff.mpr still', Bool.or_false]
            rfl

theorem receive_of_finished (ended : c.finished = true) (chunk : List UInt8) :
    c.receive chunk w = ([], c, w) := by
  rw [receive, ended, if_pos rfl]

/-- The ping for a line that was too long finishes nothing, whatever the reply to it. -/
theorem exchange_overlong :
    c.exchange (upToGoodbye (c.router.converse [.overlong] w)) w =
      let (reply, c, w) := c.handle .ping w
      ([reply], c, w) := by
  simp [exchange, handle, Router.converse, Router.afterAll, upToGoodbye, Exchange.ends, Exchange.action,
    StreamRequest.payload]

theorem receive_eq {chunk : List UInt8} {framer : Framer} {tooLong : Option Nat}
    {requests : List StreamRequest} (still : c.finished = false)
    (feed : c.framer.feed chunk = (framer, tooLong))
    (made : framer.lines.map .ofLine ++ (if tooLong.isSome then [.overlong] else []) = requests) :
    c.receive chunk w =
      { c with
        framer := { framer with lines := [] }
        dropped := c.dropped + if tooLong.isSome then 1 else 0 }.exchange
          (upToGoodbye (c.router.converse requests w)) w := by
  subst made
  have messages : (framer.lines.map Payload.ofLine).map StreamRequest.message =
      framer.lines.map .ofLine := List.map_map
  rw [receive, still, if_neg Bool.false_ne_true, feed]
  simp only [Framer.drain, handleAll_eq, messages]
  cases tooLong with
  | none => simp
  | some size =>
      simp only [Option.isSome_some, if_true, Bool.true_and, Router.converse_append]
      cases ended : (c.router.converse (framer.lines.map .ofLine) w).any Exchange.ends with
      | true =>
          -- One of the lines was answered by a goodbye, so the line that is too long is not asked about.
          rw [upToGoodbye_append_of_ended ended]
          simp [exchange, any_upToGoodbye, ended]
      | false =>
          rw [upToGoodbye_append_of_open ended, upToGoodbye_of_open ended, exchange_append]
          simp only [exchange_converse, ended, Bool.or_false, Bool.not_false, if_true]
          rw [exchange_overlong]

end Connection

inductive ConnectionCall
  | receive (chunk : List UInt8)
  | takeHandled

def ConnectionCall.chunk? : ConnectionCall → Option (List UInt8)
  | receive chunk => some chunk
  | takeHandled => none

def chunksIn (calls : List ConnectionCall) : List (List UInt8) :=
  calls.filterMap ConnectionCall.chunk?

theorem chunksIn_concat (calls : List ConnectionCall) (call : ConnectionCall) :
    chunksIn (calls ++ [call]) = chunksIn calls ++ call.chunk?.toList := by
  cases call <;> simp [chunksIn, ConnectionCall.chunk?]

/-- A connection with its world and what its calls have given so far. -/
structure ConnectionRun (W I : Type) where
  connection : Connection W I
  world : W
  /-- For each chunk the replies to it. -/
  replies : List (List Payload) := []
  /-- The handled actions that were taken, the oldest first. -/
  counted : List String := []

namespace ConnectionRun

variable {W I : Type} [Protocol W I]

def call (r : ConnectionRun W I) : ConnectionCall → ConnectionRun W I
  | .receive chunk =>
    let (replies, connection, world) := r.connection.receive chunk r.world
    { r with connection, world, replies := r.replies ++ [replies] }
  | .takeHandled =>
    let (handled, connection) := r.connection.takeHandled
    { r with connection, counted := r.counted ++ handled }

def after (router : Router W I) (limit : Nat) (world : W) (calls : List ConnectionCall) :
    ConnectionRun W I :=
  calls.foldl call { connection := { router, framer := { limit } }, world }

theorem after_concat (router : Router W I) (limit : Nat) (world : W) (calls : List ConnectionCall)
    (c : ConnectionCall) :
    after router limit world (calls ++ [c]) = (after router limit world calls).call c := by
  simp [after]

end ConnectionRun

section conversation

variable {W I : Type} [Protocol W I]

def conversation (router : Router W I) (limit : Nat) (world : W) (chunks : List (List UInt8)) :
    List Exchange :=
  upToGoodbye (router.converse (requests limit chunks) world)

variable {router : Router W I} {limit : Nat} {world : W} {chunks : List (List UInt8)}

theorem conversation_concat_of_open
    (still : (conversation router limit world chunks).any Exchange.ends = false) (chunk : List UInt8) :
    conversation router limit world (chunks ++ [chunk]) =
      conversation router limit world chunks ++
        upToGoodbye ((router.afterAll (requests limit chunks) world).1.converse
          (newRequests limit chunks chunk) (router.afterAll (requests limit chunks) world).2) := by
  rw [conversation, any_upToGoodbye] at still
  rw [conversation, conversation, requests_concat, Router.converse_append,
    upToGoodbye_append_of_open still, upToGoodbye_of_open still]

theorem conversation_concat_of_ended
    (ended : (conversation router limit world chunks).any Exchange.ends = true) (chunk : List UInt8) :
    conversation router limit world (chunks ++ [chunk]) = conversation router limit world chunks := by
  rw [conversation, any_upToGoodbye] at ended
  rw [conversation, requests_concat, Router.converse_append, upToGoodbye_append_of_ended ended,
    conversation]

theorem map_request_conversation_of_open
    (still : (conversation router limit world chunks).any Exchange.ends = false) :
    (conversation router limit world chunks).map Exchange.request = requests limit chunks := by
  rw [conversation, any_upToGoodbye] at still
  rw [conversation, upToGoodbye_of_open still, Router.map_request_converse]

end conversation

/-- What the calls so far have made of a new connection, in terms of the chunks alone. -/
structure Conversed {W I : Type} [Protocol W I] (router : Router W I) (limit : Nat) (world : W)
    (chunks : List (List UInt8)) (r : ConnectionRun W I) : Prop where
  length : r.replies.length = chunks.length
  timely : ∀ n ≤ chunks.length, (r.replies.take n).flatten =
    (conversation router limit world (chunks.take n)).map Exchange.reply
  handled : r.counted ++ r.connection.handled =
    (conversation router limit world chunks).map Exchange.action
  reached : (r.connection.router, r.world) =
    router.afterAll ((conversation router limit world chunks).map Exchange.request) world
  finished : r.connection.finished = (conversation router limit world chunks).any Exchange.ends
  /-- While it is open, nothing of what has been received waits to be taken. -/
  framed : r.connection.finished = false →
    Framed limit chunks (r.connection.framer.drained limit chunks)

namespace Conversed

variable {W I : Type} [Protocol W I] {router : Router W I} {limit : Nat} {world : W}
  {chunks : List (List UInt8)} {r : ConnectionRun W I}

theorem start (router : Router W I) (limit : Nat) (world : W) :
    Conversed router limit world [] { connection := { router, framer := { limit } }, world } where
  length := rfl
  timely n bound := by
    rw [Nat.le_zero.mp bound]
    rfl
  handled := rfl
  reached := rfl
  finished := rfl
  framed _ := Framed.start limit

theorem replies_eq (h : Conversed router limit world chunks r) :
    r.replies.flatten = (conversation router limit world chunks).map Exchange.reply := by
  have all := h.timely chunks.length (Nat.le_refl _)
  rwa [← h.length, List.take_length, h.length, List.take_length] at all

theorem timely_concat (h : Conversed router limit world chunks r) {chunk : List UInt8}
    (more : List Exchange) (grown : conversation router limit world (chunks ++ [chunk]) =
      conversation router limit world chunks ++ more) :
    ∀ n ≤ (chunks ++ [chunk]).length, ((r.replies ++ [more.map Exchange.reply]).take n).flatten =
      (conversation router limit world ((chunks ++ [chunk]).take n)).map Exchange.reply := by
  intro n bound
  by_cases earlier : n ≤ chunks.length
  · rw [List.take_append_of_le_length (h.length ▸ earlier), List.take_append_of_le_length earlier,
      h.timely n earlier]
  · have whole : n = (chunks ++ [chunk]).length := by
      rw [List.length_append, List.length_singleton] at bound ⊢
      omega
    have length : (r.replies ++ [more.map Exchange.reply]).length = (chunks ++ [chunk]).length := by
      simp [h.length]
    rw [whole, List.take_length, ← length, List.take_length, grown, List.map_append,
      ← h.replies_eq]
    simp

theorem receive (h : Conversed router limit world chunks r) (chunk : List UInt8) :
    Conversed router limit world (chunks ++ [chunk]) (r.call (.receive chunk)) := by
  have finished := h.finished
  rw [ConnectionRun.call]
  cases still : r.connection.finished with
  | true =>
      rw [still] at finished
      have grown := conversation_concat_of_ended finished.symm chunk
      rw [Connection.receive_of_finished still]
      refine ⟨by simp [h.length], h.timely_concat [] ?_, ?_, ?_, ?_, ?_⟩
      · rw [grown, List.append_nil]
      · rw [grown, h.handled]
      · rw [grown, h.reached]
      · rw [grown, h.finished]
      · intro still'
        rw [still] at still'
        cases still'
  | false =>
      rw [still] at finished
      have grown := conversation_concat_of_open finished.symm chunk
      have reached := h.reached
      rw [map_request_conversation_of_open finished.symm] at reached
      simp only [← reached] at grown
      cases feed : r.connection.framer.feed chunk with
      | mk framer tooLong =>
          obtain ⟨made, framed⟩ := (h.framed still).receive feed
          rw [Connection.receive_eq still feed made]
          refine ⟨by simp [h.length], h.timely_concat _ grown, ?_, ?_, ?_, fun _ => framed⟩
          · rw [grown, List.map_append, ← h.handled, List.append_assoc]
            rfl
          · rw [grown, List.map_append, Router.afterAll_append, ← h.reached]
            rfl
          · rw [grown, List.any_append, ← h.finished]
            rfl

theorem takeHandled (h : Conversed router limit world chunks r) :
    Conversed router limit world chunks (r.call .takeHandled) :=
  ⟨h.length, h.timely, by
    simpa [ConnectionRun.call, Connection.takeHandled] using h.handled, h.reached, h.finished, h.framed⟩

theorem after (router : Router W I) (limit : Nat) (world : W) (calls : List ConnectionCall) :
    Conversed router limit world (chunksIn calls) (ConnectionRun.after router limit world calls) := by
  induction calls using List.reverseRecOn with
  | nil => exact start router limit world
  | append_singleton calls call ih =>
      rw [ConnectionRun.after_concat, chunksIn_concat]
      cases call with
      | receive chunk => exact ih.receive chunk
      | takeHandled => simpa [ConnectionCall.chunk?] using ih.takeHandled

end Conversed

/-- What every run of calls on a connection keeps to. -/
structure ConversationLaw {W I : Type} [Protocol W I] (router : Router W I) (limit : Nat) (world : W)
    (calls : List ConnectionCall) (r : ConnectionRun W I) : Prop where
  /-- The replies are those of the router to the requests of the stream, up to the first goodbye. -/
  replies_eq : r.replies.flatten =
    (conversation router limit world (chunksIn calls)).map Exchange.reply
  /-- After each chunk the replies are those to the requests of the stream so far. -/
  timely : r.replies.length = (chunksIn calls).length ∧ ∀ n ≤ (chunksIn calls).length,
    (r.replies.take n).flatten =
      (conversation router limit world ((chunksIn calls).take n)).map Exchange.reply
  /-- The handled actions are those of the requests that have a reply, in the same order. -/
  handled_eq : r.counted ++ r.connection.handled =
    (conversation router limit world (chunksIn calls)).map Exchange.action
  handled_length : (r.counted ++ r.connection.handled).length = r.replies.flatten.length
  /-- No other request has reached the router. -/
  reached : (r.connection.router, r.world) =
    router.afterAll ((conversation router limit world (chunksIn calls)).map Exchange.request) world
  finished_iff : r.connection.finished = true ↔
    ∃ e ∈ conversation router limit world (chunksIn calls), e.ends = true
  silent : r.connection.finished = true → ∀ chunk,
    r.connection.receive chunk r.world = ([], r.connection, r.world)
  /-- When every line fits, how the stream is cut into chunks makes no difference. -/
  chunking : Fits limit (chunksIn calls).flatten → ∀ others : List ConnectionCall,
    (chunksIn others).flatten = (chunksIn calls).flatten →
      (ConnectionRun.after router limit world others).replies.flatten = r.replies.flatten

theorem conversation_law {W I : Type} [Protocol W I] (router : Router W I) (limit : Nat) (world : W)
    (calls : List ConnectionCall) :
    ConversationLaw router limit world calls (ConnectionRun.after router limit world calls) := by
  have held := Conversed.after router limit world calls
  refine ⟨held.replies_eq, ⟨held.length, held.timely⟩, held.handled, ?_, held.reached, ?_, ?_, ?_⟩
  · rw [held.handled, held.replies_eq, List.length_map, List.length_map]
  · rw [held.finished, List.any_eq_true]
  · exact fun finished chunk => Connection.receive_of_finished finished chunk
  · intro fits others same
    have fits' : Fits limit (chunksIn others).flatten := same ▸ fits
    have held' := Conversed.after router limit world others
    rw [held'.replies_eq, held.replies_eq, conversation, conversation, requests_of_fits fits,
      requests_of_fits fits', same]

end Switchboard
