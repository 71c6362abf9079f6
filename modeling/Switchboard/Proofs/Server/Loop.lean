import Switchboard.Proofs.Log
import Switchboard.Proofs.Router.Goodbye
import Switchboard.Server.Live

/-!
The loop of a live connection, one write at a time. The replies to a chunk are written one after the
other before the loop waits again, and meanwhile protocols go on to send messages. What happened is kept in
a log, and what was written is said of the log.
-/

namespace Switchboard

variable {W I : Type}

namespace Connection

variable [Protocol W I]

/-- The exchanges that bytes from the controller bring about, up to the first goodbye to a line. -/
def exchangesOf (c : Connection W I) (bytes : List UInt8) (w : W) : List Exchange :=
  let (framer, tooLong) := c.framer.feed bytes
  upToGoodbye
    (c.router.converse
      (framer.lines.map .ofLine ++ (if tooLong.isSome then [.overlong] else [])) w)

variable {c : Connection W I}

theorem receive_replies (still : c.finished = false) (bytes : List UInt8) (w : W) :
    (c.receive bytes w).1 = (c.exchangesOf bytes w).map Exchange.reply ∧
      (c.receive bytes w).2.1.finished = (c.exchangesOf bytes w).any Exchange.ends := by
  rw [receive_eq still rfl rfl]
  refine ⟨rfl, ?_⟩
  rw [exchange, still, Bool.false_or]
  rfl

end Connection

inductive LoopStep (W : Type)
  /-- Bytes come from the controller and are handled. The world may have changed in any way before. -/
  | read (bytes : List UInt8) (w : W)
  /-- The next reply that is due is written. -/
  | write
  /-- A protocol sends a message on its own. -/
  | emit (p : Payload)
  | collect
  | expire
  | close

inductive LoopEvent
  /-- Bytes were handled: these are the exchanges whose replies are due. -/
  | took (exchanges : List Exchange)
  | replied (e : Exchange)
  | emitted (p : Payload)
  /-- Messages were written together, as they were fitted to the menu. -/
  | flushed (messages fitted : List Payload)
  | closed

namespace LoopEvent

def taken : LoopEvent → List Exchange
  | took exchanges => exchanges
  | _ => []

def written : LoopEvent → List Exchange
  | replied e => [e]
  | _ => []

def sent : LoopEvent → List Payload
  | emitted p => [p]
  | _ => []

def released : LoopEvent → List Payload
  | flushed messages _ => messages
  | _ => []

end LoopEvent

section log

def tookIn (log : List LoopEvent) : List Exchange :=
  log.flatMap LoopEvent.taken

def repliedIn (log : List LoopEvent) : List Exchange :=
  log.flatMap LoopEvent.written

def emittedIn (log : List LoopEvent) : List Payload :=
  log.flatMap LoopEvent.sent

def flushedIn (log : List LoopEvent) : List Payload :=
  log.flatMap LoopEvent.released

variable (log : List LoopEvent) (e : LoopEvent)

theorem tookIn_concat : tookIn (log ++ [e]) = tookIn log ++ e.taken := by
  simp [tookIn]

theorem repliedIn_concat : repliedIn (log ++ [e]) = repliedIn log ++ e.written := by
  simp [repliedIn]

theorem emittedIn_concat : emittedIn (log ++ [e]) = emittedIn log ++ e.sent := by
  simp [emittedIn]

theorem flushedIn_concat : flushedIn (log ++ [e]) = flushedIn log ++ e.released := by
  simp [flushedIn]

/-- Neither a close nor a goodbye to a line has ended the connection. -/
def StillOpen (log : List LoopEvent) : Prop :=
  .closed ∉ log ∧ (repliedIn log).any Exchange.ends = false

/-- The loop waits: every reply that was due is written. -/
def Waits (log : List LoopEvent) : Prop :=
  StillOpen log ∧ repliedIn log = tookIn log

/-- Messages may be sent at any time. Anything else needs an open connection, and all but a reply needs a
loop that waits. -/
def LoopEvent.Follows (earlier : List LoopEvent) : LoopEvent → Prop
  | took _ => Waits earlier
  | replied _ => StillOpen earlier
  | emitted _ => True
  | flushed messages _ => Waits earlier ∧ flushedIn earlier ++ messages = emittedIn earlier
  | closed => Waits earlier

end log

/-- A live connection with the replies that are due and what happened so far. -/
structure Loop (W I : Type) where
  live : Live W I
  writing : List Exchange := []
  log : List LoopEvent := []

namespace Loop

def waits (r : Loop W I) : Bool :=
  r.writing.isEmpty && !r.live.ended

variable [Protocol W I]

def step (r : Loop W I) : LoopStep W → Loop W I
  | .emit p => { r with live := r.live.emit p, log := r.log ++ [.emitted p] }
  | .write =>
    match r.writing with
    | [] => r
    | e :: writing => { r with writing, log := r.log ++ [.replied e] }
  | .read bytes w =>
    if r.waits then
      let exchanges := r.live.connection.exchangesOf bytes w
      { live := (r.live.read bytes w).2.1, writing := exchanges, log := r.log ++ [.took exchanges] }
    else r
  | .collect => if r.waits then { r with live := r.live.collect } else r
  | .expire =>
    if r.waits && r.live.armed then
      let (fitted, live) := r.live.expire
      { r with live, log := r.log ++ [.flushed (r.live.held ++ r.live.outbox) fitted] }
    else r
  | .close =>
    if r.waits then { r with live := { r.live with ended := true }, log := r.log ++ [.closed] } else r

def after (registry : Registry W I) (name : String) (limit : Nat) (steps : List (LoopStep W)) :
    Loop W I :=
  steps.foldl step { live := .start registry name limit }

theorem after_concat (registry : Registry W I) (name : String) (limit : Nat)
    (steps : List (LoopStep W)) (s : LoopStep W) :
    after registry name limit (steps ++ [s]) = (after registry name limit steps).step s := by
  simp [after]

/-- Messages are written only when the timer expires. -/
theorem expires_of_flushed {r : Loop W I} {s : LoopStep W} {messages fitted : List Payload}
    (log : (r.step s).log = r.log ++ [.flushed messages fitted]) :
    s = .expire ∧ r.waits = true ∧ r.live.armed = true := by
  cases s with
  | expire =>
      rw [step] at log
      split at log
      case isTrue due => exact ⟨rfl, Bool.and_eq_true_iff.mp due⟩
      case isFalse _ => simp at log
  | emit p => simp [step] at log
  | write =>
      rw [step] at log
      split at log <;> simp at log
  | read bytes w =>
      rw [step] at log
      split at log <;> simp at log
  | collect =>
      rw [step] at log
      split at log <;> simp at log
  | close =>
      rw [step] at log
      split at log <;> simp at log

end Loop

/-- How a loop stands to its log. -/
structure Flowing (r : Loop W I) : Prop where
  armed : r.live.held ≠ [] → r.live.armed = true
  late_eq : flushedIn r.log ++ r.live.held ++ r.live.outbox = emittedIn r.log
  replies_eq : repliedIn r.log ++ r.writing = tookIn r.log
  /-- A goodbye to a line is the last reply that is due. -/
  last : r.writing.Pairwise fun e _ => e.ends = false
  open_of_writing : r.writing ≠ [] → StillOpen r.log
  open_of_live : r.live.ended = false → .closed ∉ r.log ∧ (tookIn r.log).any Exchange.ends = false
  unfinished : r.live.ended = false → r.live.connection.finished = false
  follows : ∀ n (e : LoopEvent), r.log[n]? = some e → e.Follows (r.log.take n)

namespace Flowing

variable {r : Loop W I}

theorem start (registry : Registry W I) (name : String) (limit : Nat) :
    Flowing { live := .start registry name limit } where
  armed held := absurd rfl held
  late_eq := rfl
  replies_eq := rfl
  last := List.Pairwise.nil
  open_of_writing due := absurd rfl due
  open_of_live _ := ⟨List.not_mem_nil, rfl⟩
  unfinished _ := rfl
  follows := by simp

theorem nothing_due (waits : r.waits = true) : r.writing = [] ∧ r.live.ended = false := by
  rw [Loop.waits, Bool.and_eq_true, List.isEmpty_iff, Bool.not_eq_true'] at waits
  exact waits

theorem waits (h : Flowing r) (waits : r.waits = true) : Waits r.log := by
  obtain ⟨writing, live⟩ := nothing_due waits
  have replies := h.replies_eq
  rw [writing, List.append_nil] at replies
  obtain ⟨closed, goodbye⟩ := h.open_of_live live
  exact ⟨⟨closed, replies ▸ goodbye⟩, replies⟩

variable [Protocol W I]

theorem emit (h : Flowing r) (p : Payload) : Flowing (r.step (.emit p)) where
  armed := h.armed
  late_eq := by
    simp only [Loop.step, Live.emit, flushedIn_concat, emittedIn_concat, ← h.late_eq, LoopEvent.released,
      LoopEvent.sent, List.append_nil, List.append_assoc]
  replies_eq := by
    simpa [Loop.step, repliedIn_concat, tookIn_concat, LoopEvent.written, LoopEvent.taken] using
      h.replies_eq
  last := h.last
  open_of_writing due := by
    simpa [Loop.step, StillOpen, repliedIn_concat, LoopEvent.written] using h.open_of_writing due
  open_of_live live := by
    simpa [Loop.step, tookIn_concat, LoopEvent.taken] using h.open_of_live live
  unfinished := h.unfinished
  follows := follows_concat h.follows trivial

theorem write (h : Flowing r) : Flowing (r.step .write) := by
  rw [Loop.step]
  cases due : r.writing with
  | nil => exact h
  | cons e writing =>
      have opened := h.open_of_writing (due ▸ List.cons_ne_nil e writing)
      have replies := h.replies_eq
      have last := h.last
      rw [due] at replies last
      obtain ⟨before, rest⟩ := List.pairwise_cons.mp last
      refine ⟨h.armed, ?_, ?_, rest, ?_, ?_, h.unfinished, follows_concat h.follows opened⟩
      · simpa [flushedIn_concat, emittedIn_concat, LoopEvent.released, LoopEvent.sent] using h.late_eq
      · simpa [repliedIn_concat, tookIn_concat, LoopEvent.written, LoopEvent.taken] using replies
      · intro more
        obtain ⟨next, there⟩ := List.exists_mem_of_ne_nil writing more
        refine ⟨by simpa using opened.1, ?_⟩
        rw [repliedIn_concat, List.any_append, opened.2, LoopEvent.written, List.any_cons,
          before next there]
        rfl
      · intro live
        simpa [tookIn_concat, LoopEvent.taken] using h.open_of_live live

theorem read (h : Flowing r) (bytes : List UInt8) (w : W) : Flowing (r.step (.read bytes w)) := by
  rw [Loop.step]
  split
  case isFalse _ => exact h
  case isTrue idle =>
    obtain ⟨writing, live⟩ := nothing_due idle
    have waited := h.waits idle
    have finished := (Connection.receive_replies (h.unfinished live) bytes w).2
    refine ⟨h.armed, ?_, ?_, pairwise_upToGoodbye _, ?_, ?_, ?_, follows_concat h.follows waited⟩
    · simpa [flushedIn_concat, emittedIn_concat, LoopEvent.released, LoopEvent.sent, Live.read] using
        h.late_eq
    · simp [repliedIn_concat, tookIn_concat, LoopEvent.written, LoopEvent.taken, waited.2]
    · intro _
      simpa [StillOpen, repliedIn_concat, LoopEvent.written] using waited.1
    · intro live'
      refine ⟨by simpa using waited.1.1, ?_⟩
      rw [tookIn_concat, List.any_append, (h.open_of_live live).2, Bool.false_or]
      exact finished.symm.trans live'
    · exact fun live' => live'

theorem collect (h : Flowing r) : Flowing (r.step .collect) := by
  rw [Loop.step]
  split
  case isFalse _ => exact h
  case isTrue _ =>
    rw [Live.collect]
    cases outbox : r.live.outbox with
    | nil => exact h
    | cons p rest =>
        refine ⟨fun _ => rfl, ?_, h.replies_eq, h.last, h.open_of_writing, h.open_of_live, h.unfinished,
          h.follows⟩
        rw [← h.late_eq, outbox]
        simp

theorem expire (h : Flowing r) : Flowing (r.step .expire) := by
  rw [Loop.step]
  split
  case isFalse _ => exact h
  case isTrue due =>
    obtain ⟨idle, armed⟩ := Bool.and_eq_true_iff.mp due
    obtain ⟨writing, live⟩ := nothing_due idle
    have waited := h.waits idle
    have all : flushedIn r.log ++ (r.live.held ++ r.live.outbox) = emittedIn r.log := by
      rw [← List.append_assoc, h.late_eq]
    rw [Live.expire, if_pos armed]
    refine ⟨fun held => absurd rfl held, ?_, ?_, h.last, fun due => absurd writing due, ?_,
      h.unfinished, follows_concat h.follows ⟨waited, all⟩⟩
    · simp [flushedIn_concat, emittedIn_concat, LoopEvent.released, LoopEvent.sent, all]
    · simpa [repliedIn_concat, tookIn_concat, LoopEvent.written, LoopEvent.taken] using h.replies_eq
    · intro _
      simpa [tookIn_concat, LoopEvent.taken] using h.open_of_live live

theorem close (h : Flowing r) : Flowing (r.step .close) := by
  rw [Loop.step]
  split
  case isFalse _ => exact h
  case isTrue idle =>
    obtain ⟨writing, live⟩ := nothing_due idle
    refine ⟨h.armed, ?_, ?_, h.last, fun due => absurd writing due, nofun, nofun,
      follows_concat h.follows (h.waits idle)⟩
    · simpa [flushedIn_concat, emittedIn_concat, LoopEvent.released, LoopEvent.sent] using h.late_eq
    · simpa [repliedIn_concat, tookIn_concat, LoopEvent.written, LoopEvent.taken] using h.replies_eq

theorem step (h : Flowing r) (s : LoopStep W) : Flowing (r.step s) := by
  cases s with
  | read bytes w => exact h.read bytes w
  | write => exact h.write
  | emit p => exact h.emit p
  | collect => exact h.collect
  | expire => exact h.expire
  | close => exact h.close

theorem after (registry : Registry W I) (name : String) (limit : Nat) (steps : List (LoopStep W)) :
    Flowing (Loop.after registry name limit steps) := by
  induction steps using List.reverseRecOn with
  | nil => exact start registry name limit
  | append_singleton steps s ih =>
      rw [Loop.after_concat]
      exact ih.step s

end Flowing

section places

variable {log : List LoopEvent} (follows : ∀ n (e : LoopEvent), log[n]? = some e → e.Follows (log.take n))

include follows

/-- While a reply that was due at a place is not written, nothing that was emitted from there on is. -/
theorem flushedIn_prefix_of_due {t : Nat} (q : Nat)
    (due : (repliedIn (log.take q)).length < (tookIn (log.take (t + 1))).length) :
    flushedIn (log.take q) <+: emittedIn (log.take t) := by
  induction q with
  | zero => exact List.nil_prefix
  | succ q ih =>
      cases found : log[q]? with
      | none =>
          rw [List.take_add_one, found, Option.toList_none, List.append_nil] at due ⊢
          exact ih due
      | some e =>
          rw [List.take_add_one, found, Option.toList_some, repliedIn_concat, List.length_append] at due
          rw [List.take_add_one, found, Option.toList_some, flushedIn_concat]
          have earlier := ih (by omega)
          cases e with
          | flushed messages fitted =>
              obtain ⟨waits, all⟩ := follows q _ found
              rw [LoopEvent.released, all]
              -- The loop waits here, so what is still due was taken later.
              have before : q ≤ t := by
                by_contra later
                have taken := (flatMap_take_mono LoopEvent.taken log (by omega : t + 1 ≤ q)).length_le
                have written := congrArg List.length waits.2
                simp only [repliedIn, tookIn] at due written
                omega
              exact flatMap_take_mono LoopEvent.sent log before
          | _ => simpa [LoopEvent.released] using earlier

theorem emitted_of_not_open {n : Nat} {e later : LoopEvent} (found : log[n]? = some e)
    (shut : ∀ earlier : List LoopEvent, e ∈ earlier → ¬StillOpen earlier)
    (behind : later ∈ log.drop (n + 1)) : ∃ p, later = .emitted p := by
  obtain ⟨m, there, before⟩ := exists_getElem?_of_mem_drop found behind
  have ended := shut _ before
  have stands := follows m later there
  cases later with
  | emitted p => exact ⟨p, rfl⟩
  | took _ => exact absurd stands.1 ended
  | replied _ => exact absurd stands ended
  | flushed _ _ => exact absurd stands.1.1 ended
  | closed => exact absurd stands.1 ended

end places

theorem not_open_of_closed {log : List LoopEvent} (closed : .closed ∈ log) : ¬StillOpen log :=
  fun still => still.1 closed

theorem not_open_of_goodbye {log : List LoopEvent} {e : Exchange} (replied : .replied e ∈ log)
    (goodbye : e.ends = true) : ¬StillOpen log := by
  intro still
  have there : e ∈ repliedIn log := List.mem_flatMap.mpr ⟨_, replied, List.mem_singleton_self e⟩
  exact Bool.eq_false_iff.mp still.2 (List.any_eq_true.mpr ⟨e, there, goodbye⟩)

/-- What a loop has written in every state that it can reach. -/
structure OutputLaw [Protocol W I] (r : Loop W I) : Prop where
  /-- What was collected is held only while the timer runs. -/
  armed : r.live.held ≠ [] → r.live.armed = true
  /-- Every message is written once, or held, or in the outbox, in the order in which they were sent. -/
  late_eq : flushedIn r.log ++ r.live.held ++ r.live.outbox = emittedIn r.log
  /-- When the timer expires everything is written that was not, fitted to the menu of that moment. -/
  expired : r.waits = true → r.live.armed = true → (r.step .expire).log =
    r.log ++ [.flushed (r.live.held ++ r.live.outbox)
      ((r.live.held ++ r.live.outbox).map r.live.connection.annotate)]
  /-- Nothing else writes messages. -/
  fitted : ∀ s messages fitted, (r.step s).log = r.log ++ [.flushed messages fitted] →
    s = .expire ∧ r.waits = true ∧ r.live.armed = true
  /-- Messages are written when no reply is due, and then all that were sent before. -/
  flushed : ∀ place messages fitted, r.log[place]? = some (.flushed messages fitted) →
    repliedIn (r.log.take place) = tookIn (r.log.take place) ∧
      flushedIn (r.log.take (place + 1)) = emittedIn (r.log.take place)
  /-- The replies that are due to bytes are those of the connection. -/
  taken : r.waits = true → ∀ bytes w,
    (r.step (.read bytes w)).writing.map (.reply ∘ Exchange.reply) =
        (r.live.step (.read bytes) w).1 ∧
      (r.step (.read bytes w)).live = (r.live.step (.read bytes) w).2.1
  /-- The replies that are due are written one after the other. -/
  replies_eq : repliedIn r.log ++ r.writing = tookIn r.log
  /-- While a reply to some bytes is due, no message is written that was sent during their handling or
  after it. -/
  acknowledged : ∀ place later,
    (repliedIn (r.log.take later)).length < (tookIn (r.log.take (place + 1))).length →
      flushedIn (r.log.take later) <+: emittedIn (r.log.take place)
  /-- After a close only the protocols go on. -/
  closed : ∀ place, r.log[place]? = some .closed →
    ∀ later ∈ r.log.drop (place + 1), ∃ p, later = .emitted p
  /-- So they do after a goodbye to a line. -/
  goodbye : ∀ place e, r.log[place]? = some (.replied e) → e.ends = true →
    ∀ later ∈ r.log.drop (place + 1), ∃ p, later = .emitted p

theorem output_law [Protocol W I] (registry : Registry W I) (name : String) (limit : Nat)
    (steps : List (LoopStep W)) : OutputLaw (Loop.after registry name limit steps) := by
  have flowing := Flowing.after registry name limit steps
  generalize Loop.after registry name limit steps = r at flowing
  refine ⟨flowing.armed, flowing.late_eq, ?_, fun _ _ _ => Loop.expires_of_flushed, ?_, ?_,
    flowing.replies_eq, ?_, ?_, ?_⟩
  · intro waits armed
    rw [Loop.step, if_pos (Bool.and_eq_true_iff.mpr ⟨waits, armed⟩), Live.expire, if_pos armed]
  · intro place messages fitted found
    obtain ⟨waits, all⟩ := flowing.follows place _ found
    refine ⟨waits.2, ?_⟩
    rw [List.take_add_one, found, Option.toList_some, flushedIn_concat, LoopEvent.released, all]
  · intro waits bytes w
    obtain ⟨writing, live⟩ := Flowing.nothing_due waits
    obtain ⟨replies, _⟩ := Connection.receive_replies (flowing.unfinished live) bytes w
    rw [Loop.step, if_pos waits, Live.step, live, if_neg Bool.false_ne_true]
    refine ⟨?_, rfl⟩
    rw [← List.map_map, ← replies]
    rfl
  · exact fun place later due => flushedIn_prefix_of_due flowing.follows later due
  · intro place found later behind
    exact emitted_of_not_open flowing.follows found (fun _ => not_open_of_closed) behind
  · intro place e found ends later behind
    exact emitted_of_not_open flowing.follows found (fun _ there => not_open_of_goodbye there ends) behind

/-- The protocol is chosen, then comes a line that is too long, then an empty message. -/
def partedTwice : List (LoopStep Unit) :=
  [.read "[\"\",\"Farewell\"]\n".toUTF8.toList (), .write,
    .read (List.replicate 21 120) (), .write, .read "\n[]\n".toUTF8.toList (), .write]

/-- The goodbye to the ping for the long line ends nothing: a second one is written behind it. -/
theorem written_after_goodbye :
    ((repliedIn (Loop.after farewells "c" 20 partedTwice).log).map fun e => e.reply.isTerminal) =
      [false, true, true] := by
  decide +kernel

end Switchboard
