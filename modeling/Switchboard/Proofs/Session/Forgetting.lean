import Switchboard.Proofs.Session.Outbound
import Switchboard.Proofs.Session.Recording
import Switchboard.Service.Local
import Switchboard.Session.Basic

/-!
Forgetting a session while messages come in. A message passes through the task that reads its connection
and waits in the session until it is recorded. Forgetting stops the task and drops what was recorded; a
message that is on its way in between is recorded afterwards, like that of a later connection.
-/

namespace Switchboard

/-- The task that reads a connection. -/
structure Reader where
  /-- The generation of the connection. -/
  generation : Nat
  framer : Framer := { limit := Framer.defaultLimit }
  /-- Holds from bytes that wake the task until it rests. In between nothing stops it. -/
  busy : Bool := false
  deriving DecidableEq

namespace Reader

/-- Takes bytes, unless there are lines to hand over or the task was stopped while it rested. -/
def read (generation : Nat) (bytes : List UInt8) (reader : Reader) : Reader :=
  if reader.framer.lines = [] ∧ (reader.busy = true ∨ reader.generation = generation) then
    { reader with framer := (reader.framer.feed bytes).1, busy := true }
  else reader

/-- Takes the next message out. -/
def next? (reader : Reader) : Option (Payload × Reader) :=
  reader.framer.next?.map fun (p, framer) => (p, { reader with framer })

def rest (reader : Reader) : Reader :=
  if reader.framer.lines = [] then { reader with busy := false } else reader

/-- A task that rests has handed everything over. -/
def Settled (reader : Reader) : Prop :=
  reader.busy = false → reader.framer.lines = []

section lemmas

variable {reader : Reader} {generation : Nat} {bytes : List UInt8}

theorem read_cases (reader : Reader) : reader.read generation bytes = reader ∨
    (reader.read generation bytes).generation = reader.generation ∧
      (reader.read generation bytes).busy = true ∧
      (reader.busy = true ∨ reader.generation = generation) := by
  rw [read]
  split
  case isTrue wakes => exact .inr ⟨rfl, rfl, wakes.2⟩
  case isFalse _ => exact .inl rfl

theorem rest_cases (reader : Reader) : reader.rest = reader ∨
    reader.framer.lines = [] ∧ reader.rest = { reader with busy := false } := by
  rw [rest]
  split
  case isTrue empty => exact .inr ⟨empty, rfl⟩
  case isFalse _ => exact .inl rfl

theorem next?_eq_none (empty : reader.framer.lines = []) : reader.next? = none := by
  rw [next?, Framer.next?, empty]
  rfl

theorem next?_eq_some {next : Payload × Reader} (h : reader.next? = some next) :
    reader.framer.lines ≠ [] ∧ next.2.generation = reader.generation ∧ next.2.busy = reader.busy := by
  obtain ⟨⟨p, framer⟩, there, same⟩ := Option.map_eq_some_iff.mp h
  cases same
  refine ⟨fun empty => ?_, rfl, rfl⟩
  rw [Framer.next?, empty] at there
  cases there

end lemmas

end Reader

/-- A session and the tasks that read its connections, in the order in which these were made. -/
structure Intake (S D : Type) where
  session : Session S D
  readers : List Reader := []
  /-- The messages that wait in the session, each with the number of its connection. -/
  waiting : List (Nat × Payload) := []

inductive IntakeStep
  /-- Something happens to the link. The first part of forgetting is of this kind. -/
  | link (e : LinkEvent Payload)
  /-- Bytes of a connection arrive at its task. -/
  | read (connection : Nat) (bytes : List UInt8)
  /-- The task of a connection hands a message over to the session. -/
  | hand (connection : Nat)
  | rest (connection : Nat)
  /-- The message that has waited longest is recorded. -/
  | record
  | forgetSchemas
  | forgetHistories
  | forgetStored
  deriving DecidableEq

namespace Intake

variable {S D : Type}

def fresh (store : Option S) (directory : Option D) : Intake S D where
  session := { store, directory }

/-- The task that starts with the connection that an event makes. -/
def started (l : Link Payload) : LinkEvent Payload → List Reader
  | .succeed attempt => if l.awaits attempt then [{ generation := (l.succeed attempt).2.generation }] else []
  | _ => []

def hand (r : Intake S D) (connection : Nat) : Intake S D :=
  match r.readers[connection]?.bind Reader.next? with
  | none => r
  | some (p, reader) =>
    { session := r.session.receive p
      readers := r.readers.set connection reader
      waiting := r.waiting ++ [(connection, p)] }

/-- What a step hands over to the session. -/
def handedBy (r : Intake S D) : IntakeStep → List (Nat × Payload)
  | .hand connection =>
    (r.readers[connection]?.bind Reader.next?).toList.map fun next => (connection, next.1)
  | _ => []

/-- What a step records. -/
def recordedBy (r : Intake S D) : IntakeStep → List (Nat × Payload)
  | .record => r.waiting.head?.toList
  | _ => []

/-- What a step does to what the session keeps. -/
def notedBy (r : Intake S D) : IntakeStep → List ReplyStep
  | .record => r.waiting.head?.toList.map fun m => .record m.2
  | .forgetSchemas => [.forgetSchemas]
  | .forgetHistories => [.forgetHistories]
  | _ => []

variable [KeyValueStore S]

def step (r : Intake S D) : IntakeStep → Intake S D
  | .link e =>
    { r with
      session := { r.session with link := (r.session.link.step e).2 }
      readers := r.readers ++ started r.session.link e }
  | .read connection bytes =>
    { r with readers := r.readers.modify connection (.read r.session.link.generation bytes) }
  | .hand connection => r.hand connection
  | .rest connection => { r with readers := r.readers.modify connection .rest }
  | .record => { r with session := r.session.recordNext, waiting := r.waiting.tail }
  | .forgetSchemas =>
    { r with session := { r.session with replies := r.session.replies.forgetSchemas } }
  | .forgetHistories =>
    { r with session := { r.session with replies := r.session.replies.forgetHistories } }
  | .forgetStored => { r with session := r.session.forgetStored.2 }

def after (r : Intake S D) (steps : List IntakeStep) : Intake S D :=
  steps.foldl step r

def handed (r : Intake S D) : List IntakeStep → List (Nat × Payload)
  | [] => []
  | s :: rest => r.handedBy s ++ handed (r.step s) rest

def recorded (r : Intake S D) : List IntakeStep → List (Nat × Payload)
  | [] => []
  | s :: rest => r.recordedBy s ++ recorded (r.step s) rest

def noted (r : Intake S D) : List IntakeStep → List ReplyStep
  | [] => []
  | s :: rest => r.notedBy s ++ noted (r.step s) rest

/-- Forgetting in one go has these parts. -/
theorem after_forgetting (r : Intake S D) :
    (r.after [.link .forget, .forgetSchemas, .forgetHistories, .forgetStored]).session =
      r.session.forget.2 :=
  rfl

section steps

variable (r : Intake S D) (s : IntakeStep)

/-- Messages leave the session in the order in which they were handed over. -/
theorem waiting_append_handedBy :
    r.waiting ++ r.handedBy s = r.recordedBy s ++ (r.step s).waiting := by
  cases s with
  | hand connection =>
      simp only [handedBy, recordedBy, step, hand]
      cases r.readers[connection]?.bind Reader.next? with
      | none => simp
      | some next => simp
  | record =>
      simp only [handedBy, recordedBy, step]
      cases r.waiting with
      | nil => rfl
      | cons m waiting => simp
  | _ => exact List.append_nil _

omit [KeyValueStore S] in
theorem recordedIn_notedBy : recordedIn (r.notedBy s) = (r.recordedBy s).map Prod.snd := by
  cases s with
  | record => cases h : r.waiting <;> simp [notedBy, recordedBy, recordedIn, ReplyStep.recorded?, h]
  | _ => rfl

/-- What becomes of the task of a connection in a step. -/
def turn (generation connection : Nat) : IntakeStep → Reader → Reader
  | .read other bytes, reader => if other = connection then reader.read generation bytes else reader
  | .hand other, reader =>
    if other = connection then (reader.next?.map Prod.snd).getD reader else reader
  | .rest other, reader => if other = connection then reader.rest else reader
  | _, reader => reader

/-- The tasks that a step starts. -/
def startedBy : IntakeStep → List Reader
  | .link e => started r.session.link e
  | _ => []

omit [KeyValueStore S] in
theorem readers_hand (connection other : Nat) : (r.hand other).readers[connection]? =
    r.readers[connection]?.map (turn r.session.link.generation connection (.hand other)) := by
  by_cases same : other = connection
  · subst same
    rw [hand]
    cases there : r.readers[other]? with
    | none => simp [there]
    | some reader =>
        have bound := (List.getElem?_eq_some_iff.mp there).1
        cases next : reader.next? with
        | none => simp [there, next, turn]
        | some next => simp [next, turn, bound]
  · have unmoved : turn r.session.link.generation connection (.hand other) = id := by
      funext reader
      exact if_neg same
    rw [unmoved, Option.map_id_fun, id, hand]
    split
    · rfl
    · exact List.getElem?_set_ne same

theorem readers_step (connection : Nat) : (r.step s).readers[connection]? =
    (r.readers ++ r.startedBy s)[connection]?.map (turn r.session.link.generation connection s) := by
  have still (readers : List Reader) : readers[connection]? = readers[connection]?.map fun reader => reader :=
    (congrFun Option.map_id_fun' _).symm
  cases s with
  | link e => exact still _
  | read other bytes =>
      simp only [startedBy, List.append_nil, step]
      exact List.getElem?_modify ..
  | hand other =>
      simp only [startedBy, List.append_nil]
      exact r.readers_hand connection other
  | rest other =>
      simp only [startedBy, List.append_nil, step]
      exact List.getElem?_modify ..
  | _ =>
      simp only [startedBy, List.append_nil]
      exact still _

variable {r} {connection : Nat} {reader : Reader}

theorem getElem?_readers_step (there : r.readers[connection]? = some reader) :
    (r.step s).readers[connection]? = some (turn r.session.link.generation connection s reader) := by
  rw [readers_step, List.getElem?_append_left (List.getElem?_eq_some_iff.mp there).1, there]
  rfl

end steps

section turns

variable {generation connection : Nat} {s : IntakeStep} {reader : Reader}

theorem generation_turn : (turn generation connection s reader).generation = reader.generation := by
  cases s with
  | read other bytes =>
      rw [turn]
      split
      · obtain same | ⟨same, _⟩ := reader.read_cases
        · rw [same]
        · exact same
      · rfl
  | hand other =>
      rw [turn]
      split
      · cases next : reader.next? with
        | none => rfl
        | some next' => exact (Reader.next?_eq_some next).2.1
      · rfl
  | rest other =>
      rw [turn]
      split
      · obtain same | ⟨_, same⟩ := reader.rest_cases
        · rw [same]
        · rw [same]
      · rfl
  | _ => rfl

theorem settled_turn (settled : reader.Settled) : (turn generation connection s reader).Settled := by
  cases s with
  | read other bytes =>
      rw [turn]
      split
      · obtain same | ⟨_, busy, _⟩ := reader.read_cases
        · rw [same]
          exact settled
        · exact fun rests => absurd (busy.symm.trans rests) nofun
      · exact settled
  | hand other =>
      rw [turn]
      split
      · cases next : reader.next? with
        | none => exact settled
        | some next' =>
            obtain ⟨lines, _, busy⟩ := Reader.next?_eq_some next
            exact fun rests => absurd (settled (busy.symm.trans rests)) lines
      · exact settled
  | rest other =>
      rw [turn]
      split
      · obtain same | ⟨empty, same⟩ := reader.rest_cases
        · rw [same]
          exact settled
        · rw [same]
          exact fun _ => empty
      · exact settled
  | _ => exact settled

/-- A task that is stopped while it rests stays as it is. -/
theorem turn_of_stopped (settled : reader.Settled) (rests : reader.busy = false)
    (stopped : reader.generation ≠ generation) : turn generation connection s reader = reader := by
  cases s with
  | read other bytes =>
      rw [turn]
      split
      · obtain same | ⟨_, _, busy | current⟩ := reader.read_cases
        · exact same
        · exact absurd (rests.symm.trans busy) nofun
        · exact absurd current stopped
      · rfl
  | hand other =>
      rw [turn, Reader.next?_eq_none (settled rests)]
      exact ite_self reader
  | rest other =>
      rw [turn]
      split
      · obtain same | ⟨_, same⟩ := reader.rest_cases
        · exact same
        · rw [same, ← rests]
      · rfl
  | _ => rfl

end turns

omit [KeyValueStore S] in
theorem generation_le_link (l : Link Payload) (e : LinkEvent Payload) :
    l.generation ≤ (l.step e).2.generation ∧
      ∀ reader ∈ started l e, reader.Settled ∧ reader.generation = (l.step e).2.generation := by
  cases e with
  | succeed attempt =>
      simp only [started, Link.step, Link.succeed]
      split
      · refine ⟨Nat.le_succ _, ?_⟩
        intro reader made
        cases List.mem_singleton.mp made
        exact ⟨fun _ => rfl, rfl⟩
      · exact ⟨Nat.le_refl _, List.forall_mem_nil _⟩
  | send m =>
      refine ⟨?_, List.forall_mem_nil _⟩
      rw [Link.step, Link.send]
      cases l.takes <;> exact Nat.le_refl _
  | fail attempt address reason =>
      refine ⟨?_, List.forall_mem_nil _⟩
      rw [Link.step, Link.fail]
      split <;> exact Nat.le_refl _
  | stop generation => exact ⟨Nat.le_refl _, List.forall_mem_nil _⟩
  | lose generation reason =>
      refine ⟨?_, List.forall_mem_nil _⟩
      rw [Link.step, Link.lose]
      split
      · exact Nat.le_succ _
      · exact Nat.le_refl _
  | start => exact ⟨Nat.le_succ _, List.forall_mem_nil _⟩
  | disconnect => exact ⟨Nat.le_succ _, List.forall_mem_nil _⟩
  | forget => exact ⟨Nat.le_succ _, List.forall_mem_nil _⟩

/-- What every step keeps. -/
structure Sound (r : Intake S D) : Prop where
  inbound : r.session.inbound = r.waiting.map Prod.snd
  settled : ∀ reader ∈ r.readers, reader.Settled
  generation_le : ∀ reader ∈ r.readers, reader.generation ≤ r.session.link.generation

theorem forgetStored_frame (s : Session S D) : s.forgetStored.2.link = s.link ∧
    s.forgetStored.2.inbound = s.inbound ∧ s.forgetStored.2.replies = s.replies := by
  rw [Session.forgetStored]
  split
  · exact ⟨rfl, rfl, rfl⟩
  · split <;> exact ⟨rfl, rfl, rfl⟩

section steps

variable {r : Intake S D} {s : IntakeStep}

theorem link_step : (r.step s).session.link =
    match s with
    | .link e => (r.session.link.step e).2
    | _ => r.session.link := by
  cases s with
  | hand connection =>
      rw [step, hand]
      split <;> rfl
  | record =>
      simp only [step, Session.recordNext]
      split <;> rfl
  | forgetStored => exact (forgetStored_frame r.session).1
  | _ => rfl

theorem generation_le_step : r.session.link.generation ≤ (r.step s).session.link.generation ∧
    ∀ reader ∈ r.startedBy s, reader.Settled ∧
      reader.generation = (r.step s).session.link.generation := by
  rw [link_step]
  cases s with
  | link e => exact generation_le_link r.session.link e
  | _ => exact ⟨Nat.le_refl _, List.forall_mem_nil _⟩

theorem Sound.step (h : r.Sound) (s : IntakeStep) : (r.step s).Sound where
  inbound := by
    cases s with
    | hand connection =>
        rw [Intake.step, hand]
        split
        · exact h.inbound
        · simp [Session.receive, h.inbound]
    | record =>
        simp only [Intake.step, Session.recordNext]
        cases waiting : r.waiting <;> simp [h.inbound, waiting]
    | forgetStored => exact (forgetStored_frame r.session).2.1.trans h.inbound
    | _ => exact h.inbound
  settled reader member := by
    obtain ⟨connection, there⟩ := List.mem_iff_getElem?.mp member
    rw [readers_step, Option.map_eq_some_iff] at there
    obtain ⟨earlier, there, rfl⟩ := there
    obtain old | new := List.mem_append.mp (List.mem_of_getElem? there)
    · exact settled_turn (h.settled earlier old)
    · exact settled_turn (generation_le_step.2 earlier new).1
  generation_le reader member := by
    obtain ⟨connection, there⟩ := List.mem_iff_getElem?.mp member
    rw [readers_step, Option.map_eq_some_iff] at there
    obtain ⟨earlier, there, rfl⟩ := there
    rw [generation_turn]
    obtain old | new := List.mem_append.mp (List.mem_of_getElem? there)
    · exact Nat.le_trans (h.generation_le earlier old) generation_le_step.1
    · exact Nat.le_of_eq (generation_le_step.2 earlier new).2

theorem replies_step (h : r.Sound) (s : IntakeStep) :
    (r.step s).session.replies = r.session.replies.after (r.notedBy s) := by
  cases s with
  | hand connection =>
      rw [step, hand]
      split <;> rfl
  | record =>
      simp only [step, Session.recordNext, notedBy, h.inbound]
      cases r.waiting <;> rfl
  | forgetStored => exact (forgetStored_frame r.session).2.2
  | _ => rfl

end steps

section runs

variable {r : Intake S D} {steps later : List IntakeStep}

theorem Sound.after (h : r.Sound) : (r.after steps).Sound := by
  induction steps generalizing r with
  | nil => exact h
  | cons s rest ih => exact ih (h.step s)

omit [KeyValueStore S] in
theorem sound_fresh (store : Option S) (directory : Option D) : (fresh store directory).Sound :=
  ⟨rfl, nofun, nofun⟩

theorem after_append : r.after (steps ++ later) = (r.after steps).after later :=
  List.foldl_append ..

theorem noted_append : r.noted (steps ++ later) = r.noted steps ++ (r.after steps).noted later := by
  induction steps generalizing r with
  | nil => rfl
  | cons s rest ih =>
      rw [List.cons_append, noted, ih, noted, List.append_assoc]
      rfl

theorem waiting_append_handed :
    r.waiting ++ r.handed steps = r.recorded steps ++ (r.after steps).waiting := by
  induction steps generalizing r with
  | nil => exact List.append_nil _
  | cons s rest ih =>
      calc r.waiting ++ (r.handedBy s ++ (r.step s).handed rest)
        _ = r.recordedBy s ++ ((r.step s).waiting ++ (r.step s).handed rest) := by
            rw [← List.append_assoc, waiting_append_handedBy, List.append_assoc]
        _ = r.recorded (s :: rest) ++ (r.after (s :: rest)).waiting := by
            rw [ih, recorded, List.append_assoc]
            rfl

theorem recordedIn_noted : recordedIn (r.noted steps) = (r.recorded steps).map Prod.snd := by
  induction steps generalizing r with
  | nil => rfl
  | cons s rest ih =>
      rw [noted, recorded, List.map_append, ← ih, ← recordedIn_notedBy]
      exact List.filterMap_append

theorem replies_after (h : r.Sound) (steps : List IntakeStep) :
    (r.after steps).session.replies = r.session.replies.after (r.noted steps) := by
  induction steps generalizing r with
  | nil => rfl
  | cons s rest ih =>
      have next := ih (h.step s)
      rw [replies_step h s] at next
      rw [noted, Replies.after, List.foldl_append]
      exact next

end runs

section delivery

variable {r : Intake S D} {connection : Nat} {reader : Reader}

/-- A task that hands over all it has drains its framer. -/
theorem after_hands (lines : List (List UInt8)) (there : r.readers[connection]? = some reader)
    (has : reader.framer.lines = lines) :
    r.after (List.replicate lines.length (.hand connection)) =
      { session := (lines.map Payload.ofLine).foldl Session.receive r.session
        readers := r.readers.set connection { reader with framer := reader.framer.drain.2 }
        waiting := r.waiting ++ lines.map fun line => (connection, .ofLine line) } := by
  induction lines generalizing r reader with
  | nil =>
      have same : { reader with framer := reader.framer.drain.2 } = reader := by
        rw [Framer.drain, ← has]
      rw [same, List.map_nil, List.map_nil, List.append_nil, ← (List.getElem?_eq_some_iff.mp there).2,
        List.set_getElem_self]
      rfl
  | cons line lines ih =>
      have bound := (List.getElem?_eq_some_iff.mp there).1
      have next : reader.next? =
          some (.ofLine line, { reader with framer := { reader.framer with lines := lines } }) := by
        rw [Reader.next?, Framer.next?, has]
        rfl
      have first : r.step (.hand connection) =
          { session := r.session.receive (.ofLine line)
            readers := r.readers.set connection
              { reader with framer := { reader.framer with lines := lines } }
            waiting := r.waiting ++ [(connection, .ofLine line)] } := by
        rw [step, hand, there, Option.bind_some, next]
      rw [List.length_cons, List.replicate_succ, after, List.foldl_cons, first, ← after,
        ih (List.getElem?_set_self bound) rfl]
      simp [Framer.drain]

/-- Bytes that arrive at a task that waits for them reach the session as a whole. -/
theorem after_read (bytes : List UInt8) (there : r.readers[connection]? = some reader)
    (empty : reader.framer.lines = []) (current : reader.generation = r.session.link.generation) :
    (r.after (.read connection bytes ::
        List.replicate (reader.framer.feed bytes).1.lines.length (.hand connection))).session =
      (r.session.receiveBytes reader.framer bytes).2 := by
  have awake : (r.step (.read connection bytes)).readers[connection]? =
      some { reader with framer := (reader.framer.feed bytes).1, busy := true } := by
    rw [getElem?_readers_step _ there]
    simp [turn, Reader.read, empty, current]
  rw [after, List.foldl_cons, ← after, after_hands _ awake rfl]
  rfl

end delivery

section stopped

variable {r : Intake S D} {connection : Nat} {steps : List IntakeStep}

/-- The link has gone on from a connection. -/
def Cut (r : Intake S D) (connection : Nat) : Prop :=
  ∃ reader, r.readers[connection]? = some reader ∧ reader.generation < r.session.link.generation

/-- The task of a connection still hands messages over. -/
def Busy (r : Intake S D) (connection : Nat) : Prop :=
  ∃ reader, r.readers[connection]? = some reader ∧ reader.busy = true

theorem Cut.step (h : r.Cut connection) (s : IntakeStep) : (r.step s).Cut connection := by
  obtain ⟨reader, there, behind⟩ := h
  refine ⟨_, getElem?_readers_step s there, ?_⟩
  rw [generation_turn]
  exact Nat.lt_of_lt_of_le behind generation_le_step.1

theorem Cut.after (h : r.Cut connection) : (r.after steps).Cut connection := by
  induction steps generalizing r with
  | nil => exact h
  | cons s rest ih => exact ih (h.step s)

/-- Forgetting cuts off every connection there is. -/
theorem cut_forget (h : r.Sound) (old : connection < r.readers.length) :
    (r.step (.link .forget)).Cut connection := by
  have there := List.getElem?_eq_getElem old
  refine ⟨_, getElem?_readers_step _ there, ?_⟩
  rw [generation_turn]
  exact Nat.lt_succ_of_le (h.generation_le _ (List.getElem_mem old))

/-- The task of a connection that was cut off while it rested hands nothing over. -/
theorem not_busy_step (h : r.Sound) (cut : r.Cut connection) (rests : ¬r.Busy connection)
    (s : IntakeStep) : ¬(r.step s).Busy connection ∧ ∀ p, (connection, p) ∉ r.handedBy s := by
  obtain ⟨reader, there, behind⟩ := cut
  have idle : reader.busy = false := by
    rw [← Bool.not_eq_true]
    exact fun busy => rests ⟨reader, there, busy⟩
  have settled := h.settled reader (List.mem_of_getElem? there)
  constructor
  · rintro ⟨later, there', busy⟩
    rw [getElem?_readers_step s there, turn_of_stopped settled idle (Nat.ne_of_lt behind)] at there'
    cases there'
    exact absurd (idle.symm.trans busy) nofun
  · intro p handed
    cases s with
    | hand other =>
        obtain ⟨next, found, same⟩ := List.mem_map.mp handed
        cases same
        rw [there, Option.bind_some, Reader.next?_eq_none (settled idle)] at found
        cases found
    | _ => cases handed

theorem notMem_handed (h : r.Sound) (cut : r.Cut connection) (rests : ¬r.Busy connection) (p : Payload) :
    (connection, p) ∉ r.handed steps := by
  induction steps generalizing r with
  | nil => exact List.not_mem_nil
  | cons s rest ih =>
      obtain ⟨still, none⟩ := not_busy_step h cut rests s
      exact fun handed => (List.mem_append.mp handed).elim (none p) (ih (h.step s) (cut.step s) still)

end stopped

end Intake

section law

variable {S D : Type} [KeyValueStore S]

/-- What becomes of what was on its way when a session forgot what it had recorded. The connections below
`old` were made before it forgot, `r` is how it stood right after a half of that, and `later` is what
happened since. -/
structure ForgettingLaw (old : Nat) (half : IntakeStep) (r : Intake S D) (later : List IntakeStep) :
    Prop where
  /-- Messages are recorded in the order in which they were handed over, those that waited first. -/
  order : r.waiting ++ r.handed later = r.recorded later ++ (r.after later).waiting
  waiting : (r.after later).session.inbound = (r.after later).waiting.map Prod.snd
  /-- Until it forgets again, the histories are of the messages recorded since. -/
  history : half = .forgetHistories → half ∉ later → ∀ key,
    (r.after later).session.replies.history key =
      (((r.recorded later).map Prod.snd).filter (Payload.tells key)).rtake historyCapacity
  /-- Until it forgets again, the schemas were asked for by the messages recorded since. -/
  schema : half = .forgetSchemas → half ∉ later → ∀ key,
    (r.after later).session.replies.schema? key =
      (((r.recorded later).map Prod.snd).filterMap (Payload.asks? key)).getLast?
  /-- A message of an old connection is recorded only when it waited or its task was not at rest. -/
  origin : ∀ m ∈ r.recorded later, m.1 < old → m ∈ r.waiting ∨ r.Busy m.1
  /-- What waited is recorded once the session comes to it, be it of an old connection or not. -/
  kept : r.recorded (List.replicate r.waiting.length .record) = r.waiting
  /-- Nothing of an old connection is recorded if nothing of one waited and their tasks were at rest. -/
  clean : (∀ m ∈ r.waiting, old ≤ m.1) → (∀ connection < old, ¬r.Busy connection) →
    ∀ m ∈ r.recorded later, old ≤ m.1

namespace Intake

variable {r : Intake S D} {later : List IntakeStep}

theorem recorded_replicate : r.recorded (List.replicate r.waiting.length .record) = r.waiting := by
  generalize same : r.waiting = waiting
  induction waiting generalizing r with
  | nil => rfl
  | cons m waiting ih =>
      have next : (r.step .record).waiting = waiting := by rw [step, same, List.tail_cons]
      rw [List.length_cons, List.replicate_succ, recorded, recordedBy, same, ih next]
      rfl

theorem mem_noted {s : ReplyStep} (h : s ∈ r.noted later) :
    (∃ p, s = .record p) ∨ s = .forgetSchemas ∧ .forgetSchemas ∈ later ∨
      s = .forgetHistories ∧ .forgetHistories ∈ later := by
  induction later generalizing r with
  | nil => cases h
  | cons first rest ih =>
      obtain here | there := List.mem_append.mp h
      · cases first with
        | record =>
            obtain ⟨m, _, same⟩ := List.mem_map.mp here
            exact .inl ⟨m.2, same.symm⟩
        | forgetSchemas => exact .inr (.inl ⟨List.mem_singleton.mp here, List.mem_cons_self⟩)
        | forgetHistories => exact .inr (.inr ⟨List.mem_singleton.mp here, List.mem_cons_self⟩)
        | _ => cases here
      · exact (ih there).imp_right
          (.imp (.imp_right (List.mem_cons_of_mem first)) (.imp_right (List.mem_cons_of_mem first)))

section forgotten

variable {store : Option S} {directory : Option D} {first : List IntakeStep} (key : String)

theorem replies_fresh (half : IntakeStep) :
    (((fresh store directory).after (first ++ [half])).after later).session.replies =
      Replies.after {} ((fresh store directory).noted first ++
        (((fresh store directory).after first).notedBy half ++
          ((fresh store directory).after (first ++ [half])).noted later)) := by
  have sound := sound_fresh store directory
  have whole := replies_after sound (first ++ [half] ++ later)
  have alone : ((fresh store directory).after first).noted [half] =
      ((fresh store directory).after first).notedBy half := List.append_nil _
  rw [after_append, noted_append, noted_append, alone, List.append_assoc] at whole
  exact whole

theorem history_forgotten (never : .forgetHistories ∉ later)
    (was : r = (fresh store directory).after (first ++ [.forgetHistories])) :
    (r.after later).session.replies.history key =
      (((r.recorded later).map Prod.snd).filter (Payload.tells key)).rtake historyCapacity := by
  have none : ∀ s ∈ r.noted later, (!s.clears key) = true := by
    intro s noted
    obtain ⟨p, rfl⟩ | ⟨rfl, _⟩ | ⟨_, again⟩ := mem_noted noted
    · rfl
    · rfl
    · exact absurd again never
  rw [was] at none ⊢
  rw [replies_fresh, Replies.history_after]
  rw [notedBy, List.singleton_append, sinceLast_append_cons rfl, sinceLast,
    List.rtakeWhile_eq_self_iff.mpr none, recordedIn_noted]

theorem schema_forgotten (never : .forgetSchemas ∉ later)
    (was : r = (fresh store directory).after (first ++ [.forgetSchemas])) :
    (r.after later).session.replies.schema? key =
      (((r.recorded later).map Prod.snd).filterMap (Payload.asks? key)).getLast? := by
  have none : ∀ s ∈ r.noted later, (!s.takes key) = true := by
    intro s noted
    obtain ⟨p, rfl⟩ | ⟨_, again⟩ | ⟨rfl, _⟩ := mem_noted noted
    · rfl
    · exact absurd again never
    · rfl
  rw [was] at none ⊢
  rw [replies_fresh, Replies.schema?_after]
  rw [notedBy, List.singleton_append, sinceLast_append_cons rfl, sinceLast,
    List.rtakeWhile_eq_self_iff.mpr none, recordedIn_noted]

end forgotten

theorem mem_of_recorded (h : r.Sound) {old : Nat} (cut : ∀ connection < old, r.Cut connection)
    {m : Nat × Payload} (recorded : m ∈ r.recorded later) (early : m.1 < old) :
    m ∈ r.waiting ∨ r.Busy m.1 := by
  have came : m ∈ r.waiting ++ r.handed later := by
    rw [waiting_append_handed]
    exact List.mem_append_left _ recorded
  refine (List.mem_append.mp came).imp_right fun handed => ?_
  by_contra rests
  exact notMem_handed h (cut m.1 early) rests m.2 handed

end Intake

theorem forgetting_law (store : Option S) (directory : Option D) (before middle later : List IntakeStep)
    (half : IntakeStep) :
    ForgettingLaw ((Intake.fresh store directory).after before).readers.length half
      ((Intake.fresh store directory).after (before ++ .link .forget :: middle ++ [half])) later := by
  have begun : ((Intake.fresh store directory).after before).Sound :=
    (Intake.sound_fresh store directory).after
  have cut : ∀ connection < ((Intake.fresh store directory).after before).readers.length,
      ((Intake.fresh store directory).after (before ++ .link .forget :: middle ++ [half])).Cut
        connection := by
    intro connection old
    rw [List.append_assoc, Intake.after_append]
    exact (Intake.cut_forget begun old).after
  have sound : ((Intake.fresh store directory).after (before ++ .link .forget :: middle ++ [half])).Sound :=
    (Intake.sound_fresh store directory).after
  refine ⟨Intake.waiting_append_handed, sound.after.inbound, ?_, ?_, ?_, Intake.recorded_replicate, ?_⟩
  · rintro rfl never key
    exact Intake.history_forgotten key never rfl
  · rintro rfl never key
    exact Intake.schema_forgotten key never rfl
  · exact fun m recorded early => Intake.mem_of_recorded sound cut recorded early
  · intro waiting rests m recorded
    by_contra early
    obtain waited | busy := Intake.mem_of_recorded sound cut recorded (Nat.lt_of_not_le early)
    · exact early (waiting m waited)
    · exact rests m.1 (Nat.lt_of_not_le early) busy

/-- A message that came before a session forgot is in the history afterwards, though no other connection
was made. -/
theorem recorded_after_forgetting :
    let r := (Intake.fresh (some ({} : Store)) (none : Option LocalDirectory)).after
      [.link .start, .link (.succeed 1), .read 0 "\x7b\"key\":\"k\"\x7d\n".toUTF8.toList, .hand 0, .rest 0,
        .link .forget, .forgetSchemas, .forgetHistories, .forgetStored, .record]
    r.readers.length = 1 ∧ r.session.link.state = .disconnected ∧
      (r.session.replies.history "k").map Payload.key = ["k"] := by
  decide +kernel

end law

end Switchboard
