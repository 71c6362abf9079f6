import Switchboard.Proofs.Session.Attempts

/-!
How overlapping attempts end. The session is connected exactly while the connection of the attempt that
started last is there; all that comes late from another attempt or connection changes nothing.
-/

namespace Switchboard

open SessionStep

/-- An attempt: how far it has come and, when it has made a connection, the generation of that. -/
structure Opening where
  stage : ConnectStage
  connection : Option Nat := none

/-- A session with its attempts, in the order in which they started. -/
structure SessionRun (S D : Type) where
  session : Session S D
  openings : List Opening := []

namespace SessionRun

variable {S D : Type} [KeyValueStore S] [ServiceLookup D]

/-- The generation by which the session knows an attempt that waits for the network. -/
def attempt? (r : SessionRun S D) (attempt : Nat) : Option Nat :=
  r.openings[attempt]?.bind fun o =>
    match o.stage with
    | .waiting _ generation => some generation
    | _ => none

/-- The generation by which the session knows the connection of an attempt. -/
def connection? (r : SessionRun S D) (attempt : Nat) : Option Nat :=
  r.openings[attempt]?.bind Opening.connection

/-- Gives an attempt the answer of the network. A connection that it makes has the generation that the
session has then. -/
def answer (r : SessionRun S D) (attempt : Nat) (answer : Except ReachError Unit) : SessionRun S D :=
  match r.openings[attempt]? with
  | some ⟨.waiting address generation, _⟩ =>
    let (stage, session) := r.session.advance (fun _ => answer) (.waiting address generation)
    let connection := stage.outcome.toOption.map fun _ => session.link.generation
    { session, openings := r.openings.set attempt { stage, connection } }
  | _ => r

def step (r : SessionRun S D) : SessionStep → SessionRun S D
  | .start address =>
    let (stage, session) := r.session.advance (fun _ => .ok ()) (.starting address)
    { session, openings := r.openings ++ [{ stage }] }
  | .answer attempt answer => r.answer attempt answer
  | .lose attempt reason =>
    match r.connection? attempt with
    | some generation => { r with session := r.session.lose generation reason }
    | none => r
  | .disconnect => { r with session := r.session.disconnect }
  | .forget => { r with session := r.session.forgetLink }
  | .send p => { r with session := (r.session.send p).2 }
  | .aim target =>
    { r with session := { r.session with link := { r.session.link with target := some target } } }
  | .stop attempt =>
    match r.connection? attempt with
    | some generation => { r with session := { r.session with link := r.session.link.stop generation } }
    | none => r

def after (store : Option S) (directory : Option D) (steps : List SessionStep) : SessionRun S D :=
  steps.foldl step { session := { store, directory } }

theorem after_concat (store : Option S) (directory : Option D) (steps : List SessionStep)
    (s : SessionStep) :
    after store directory (steps ++ [s]) = (after store directory steps).step s := by
  simp [after]

end SessionRun

/-- How the session, which knows generations only, stands to what has happened. -/
structure Held {S D : Type} (steps : List SessionStep) (r : SessionRun S D) : Prop where
  length : r.openings.length = startsIn steps
  pending_iff : ∀ attempt, (r.attempt? attempt).isSome ↔ Pending steps attempt
  attempt_le : ∀ attempt g, r.attempt? attempt = some g → g ≤ r.session.link.generation
  connection_le : ∀ attempt g, r.connection? attempt = some g → g ≤ r.session.link.generation
  awaited_iff : ∀ attempt, Awaited steps attempt ↔
    r.session.link.state = .connecting ∧ r.attempt? attempt = some r.session.link.generation
  current_iff : ∀ attempt, Current steps attempt ↔
    r.connection? attempt = some r.session.link.generation
  connecting : r.session.link.state = .connecting → ∃ attempt, Awaited steps attempt
  connected_iff : r.session.link.state = .connected ↔ ∃ attempt, Current steps attempt

section answers

variable {S D : Type}

/-- Why an attempt fails that no longer counts. -/
def refusal : Except ReachError Unit → SessionError
  | .ok () => .notConnected
  | .error e => .io e.message

theorem Session.conclude_of_not_awaits {s : Session S D} (address : String) {generation : Nat}
    (answer : Except ReachError Unit) (h : s.link.awaits generation = false) :
    s.conclude address generation answer = (.finished (.error (refusal answer)), s) := by
  cases answer with
  | ok _ => simp only [conclude, Link.succeed, h, Bool.false_eq_true, if_false, refusal]
  | error e => simp only [conclude, Link.fail, h, Bool.false_eq_true, if_false, refusal]

theorem Session.conclude_ok {s : Session S D} (address : String) {generation : Nat}
    (h : s.link.awaits generation = true) :
    s.conclude address generation (.ok ()) =
      (.finished (.ok s.link.queue), { s with link := (s.link.succeed generation).2 }) := by
  simp only [conclude, Link.succeed, h, if_true]

namespace SessionRun

variable {r : SessionRun S D} {attempt generation : Nat}

theorem attempt?_eq_some_iff :
    r.attempt? attempt = some generation ↔
      ∃ address connection, r.openings[attempt]? = some ⟨.waiting address generation, connection⟩ := by
  rw [attempt?, Option.bind_eq_some_iff]
  constructor
  · rintro ⟨⟨stage, connection⟩, found, waits⟩
    cases stage with
    | waiting address g =>
        cases waits
        exact ⟨address, connection, found⟩
    | _ => cases waits
  · rintro ⟨address, connection, found⟩
    exact ⟨_, found, rfl⟩

section openings

variable {r' : SessionRun S D}

theorem attempt?_congr (openings : r'.openings = r.openings) : r'.attempt? = r.attempt? := by
  funext attempt
  rw [attempt?, openings, attempt?]

theorem connection?_congr (openings : r'.openings = r.openings) : r'.connection? = r.connection? := by
  funext attempt
  rw [connection?, openings, connection?]

theorem attempt?_push {address : String}
    (openings : r'.openings = r.openings ++ [{ stage := .waiting address generation }]) (other : Nat) :
    r'.attempt? other =
      if other = r.openings.length then some generation else r.attempt? other := by
  rw [attempt?, attempt?, openings]
  split
  case isTrue new => simp [new]
  case isFalse old =>
    rcases Nat.lt_or_gt_of_ne old with before | behind
    · rw [List.getElem?_append_left before]
    · rw [List.getElem?_eq_none (by simp; omega), List.getElem?_eq_none (by omega)]

theorem connection?_push {stage : ConnectStage} (openings : r'.openings = r.openings ++ [⟨stage, none⟩])
    (other : Nat) : r'.connection? other = r.connection? other := by
  rw [connection?, connection?, openings]
  rcases Nat.lt_trichotomy other r.openings.length with before | rfl | behind
  · rw [List.getElem?_append_left before]
  · simp
  · rw [List.getElem?_eq_none (by simp; omega), List.getElem?_eq_none (by omega)]

theorem attempt?_set {outcome : Except SessionError (List Payload)} {connection : Option Nat}
    (openings : r'.openings = r.openings.set attempt ⟨.finished outcome, connection⟩) (other : Nat) :
    r'.attempt? other = if other = attempt then none else r.attempt? other := by
  rw [attempt?, attempt?, openings]
  split
  case isTrue same =>
    rw [same, List.getElem?_set_self']
    cases r.openings[attempt]? <;> rfl
  case isFalse apart => rw [List.getElem?_set_ne (Ne.symm apart)]

theorem connection?_set {stage : ConnectStage} {connection : Option Nat}
    (openings : r'.openings = r.openings.set attempt ⟨stage, connection⟩)
    (bound : attempt < r.openings.length) (other : Nat) :
    r'.connection? other = if other = attempt then connection else r.connection? other := by
  rw [connection?, connection?, openings]
  split
  case isTrue same =>
    rw [same, List.getElem?_set_self bound]
    rfl
  case isFalse apart => rw [List.getElem?_set_ne (Ne.symm apart)]

end openings

variable [KeyValueStore S] [ServiceLookup D]

theorem answer_of_none (answer : Except ReachError Unit) (h : r.attempt? attempt = none) :
    r.answer attempt answer = r := by
  rw [SessionRun.answer]
  split
  case h_1 address generation connection found =>
    rw [attempt?_eq_some_iff.mpr ⟨address, connection, found⟩] at h
    cases h
  case h_2 => rfl

theorem answer_of_waiting {address : String} {connection : Option Nat}
    (answer : Except ReachError Unit)
    (h : r.openings[attempt]? = some ⟨.waiting address generation, connection⟩) :
    r.answer attempt answer =
      let concluded := r.session.conclude address generation answer
      { session := concluded.2
        openings := r.openings.set attempt
          { stage := concluded.1
            connection := concluded.1.outcome.toOption.map fun _ => concluded.2.link.generation } } := by
  rw [SessionRun.answer, h]
  rfl

end SessionRun

end answers

namespace Held

variable {S D : Type} {steps : List SessionStep} {r r' : SessionRun S D} {s : SessionStep}

theorem initial (store : Option S) (directory : Option D) :
    Held [] ({ session := { store, directory } } : SessionRun S D) where
  length := rfl
  pending_iff attempt := by simp [SessionRun.attempt?, not_pending_nil]
  attempt_le _ _ found := by cases found
  connection_le _ _ found := by cases found
  awaited_iff attempt := by simp [SessionRun.attempt?, not_awaited_nil]
  current_iff attempt := by simp [SessionRun.connection?, not_current_nil]
  connecting state := by cases state
  connected_iff := by simp [not_current_nil]

theorem not_awaited_of_current (h : Held steps r) {attempt : Nat} (current : Current steps attempt)
    (other : Nat) : ¬Awaited steps other := by
  intro awaited
  have connected := h.connected_iff.mpr ⟨attempt, current⟩
  rw [((h.awaited_iff other).mp awaited).1] at connected
  cases connected

/-- A step that concerns neither the attempts nor the connections. -/
theorem calm (h : Held steps r) (openings : r'.openings = r.openings)
    (state : r'.session.link.state = r.session.link.state)
    (generation : r'.session.link.generation = r.session.link.generation)
    (starts : s.isStart = false)
    (pending : ∀ attempt, Pending (steps ++ [s]) attempt ↔ Pending steps attempt)
    (awaited : ∀ attempt, Awaited (steps ++ [s]) attempt ↔ Awaited steps attempt)
    (current : ∀ attempt, Current (steps ++ [s]) attempt ↔ Current steps attempt) :
    Held (steps ++ [s]) r' := by
  have attempts := SessionRun.attempt?_congr openings
  have connections := SessionRun.connection?_congr openings
  constructor
  · rw [openings, h.length, startsIn_concat, starts]
    rfl
  · simpa only [attempts, pending] using h.pending_iff
  · simpa only [attempts, generation] using h.attempt_le
  · simpa only [connections, generation] using h.connection_le
  · simpa only [attempts, generation, state, awaited] using h.awaited_iff
  · simpa only [connections, generation, current] using h.current_iff
  · simpa only [state, awaited] using h.connecting
  · simpa only [state, current] using h.connected_iff

/-- A step after which there is neither an attempt that counts nor a connection. -/
theorem ended (h : Held steps r) (openings : r'.openings = r.openings)
    (state : r'.session.link.state = .disconnected)
    (generation : r'.session.link.generation = r.session.link.generation + 1)
    (starts : s.isStart = false)
    (pending : ∀ attempt, Pending (steps ++ [s]) attempt ↔ Pending steps attempt)
    (awaited : ∀ attempt, ¬Awaited (steps ++ [s]) attempt)
    (current : ∀ attempt, ¬Current (steps ++ [s]) attempt) : Held (steps ++ [s]) r' := by
  have attempts := SessionRun.attempt?_congr openings
  have connections := SessionRun.connection?_congr openings
  constructor
  · rw [openings, h.length, startsIn_concat, starts]
    rfl
  · simpa only [attempts, pending] using h.pending_iff
  · intro attempt g found
    rw [attempts] at found
    exact generation ▸ Nat.le_succ_of_le (h.attempt_le attempt g found)
  · intro attempt g found
    rw [connections] at found
    exact generation ▸ Nat.le_succ_of_le (h.connection_le attempt g found)
  · simp [awaited, state]
  · intro attempt
    rw [connections, generation, iff_false_left (current attempt)]
    -- The generation has grown past all that were given out.
    exact fun found => Nat.not_succ_le_self _ (h.connection_le attempt _ found)
  · simp [state]
  · simp [current, state]

theorem start [KeyValueStore S] [ServiceLookup D] (h : Held steps r) (address : String) :
    Held (steps ++ [.start address]) (r.step (.start address)) := by
  have openings : (r.step (.start address)).openings =
      r.openings ++ [⟨.waiting address (r.session.link.generation + 1), none⟩] := rfl
  have attempts := SessionRun.attempt?_push openings
  have connections := SessionRun.connection?_push openings
  have state : (r.step (.start address)).session.link.state = .connecting := rfl
  have generation : (r.step (.start address)).session.link.generation =
      r.session.link.generation + 1 := rfl
  have awaited (attempt : Nat) :
      Awaited (steps ++ [.start address]) attempt ↔ attempt = startsIn steps := by
    simp [awaited_concat, isStart, interrupts]
  have current (attempt : Nat) : ¬Current (steps ++ [.start address]) attempt := by
    simp [current_concat, interrupts]
  rw [h.length] at attempts
  constructor
  · rw [startsIn_concat, ← h.length]
    exact List.length_append
  · intro attempt
    rw [attempts, pending_concat, ← h.pending_iff]
    split <;> simp_all [isStart, answers]
  · intro attempt g found
    rw [attempts] at found
    split at found
    · cases found
      exact Nat.le_refl _
    · exact Nat.le_succ_of_le (h.attempt_le attempt g found)
  · intro attempt g found
    rw [connections] at found
    exact Nat.le_succ_of_le (h.connection_le attempt g found)
  · intro attempt
    rw [attempts, awaited, generation, state]
    split
    case isTrue last => exact iff_of_true last ⟨rfl, rfl⟩
    case isFalse earlier =>
      rw [iff_false_left earlier]
      exact fun both => Nat.not_succ_le_self _ (h.attempt_le attempt _ both.2)
  · intro attempt
    rw [connections, generation, iff_false_left (current attempt)]
    exact fun found => Nat.not_succ_le_self _ (h.connection_le attempt _ found)
  · exact fun _ => ⟨_, (awaited _).mpr rfl⟩
  · simp [current, state]

section answer

variable {attempt : Nat} {answer : Except ReachError Unit} {outcome : Except SessionError (List Payload)}

theorem refused (h : Held steps r) (pending : Pending steps attempt) (unawaited : ¬Awaited steps attempt)
    (session : r'.session = r.session)
    (openings : r'.openings = r.openings.set attempt ⟨.finished outcome, none⟩) :
    Held (steps ++ [.answer attempt answer]) r' := by
  have bound : attempt < r.openings.length := h.length ▸ pending.lt_startsIn
  have attempts := SessionRun.attempt?_set openings
  have connections := SessionRun.connection?_set openings bound
  have awaited (other : Nat) :
      Awaited (steps ++ [.answer attempt answer]) other ↔ Awaited steps other := by
    rw [awaited_answer]
    exact and_iff_left_of_imp fun now same => unawaited (same ▸ now)
  have current (other : Nat) :
      Current (steps ++ [.answer attempt answer]) other ↔ Current steps other := by
    rw [current_answer]
    exact or_iff_right fun made => unawaited made.2.2
  constructor
  · rw [openings, List.length_set, h.length, startsIn_concat]
    rfl
  · intro other
    rw [attempts, pending_answer, ← h.pending_iff]
    split <;> simp [*]
  · intro other g found
    rw [attempts] at found
    split at found
    · cases found
    · exact session ▸ h.attempt_le other g found
  · intro other g found
    rw [connections] at found
    split at found
    · cases found
    · exact session ▸ h.connection_le other g found
  · intro other
    rw [attempts, session, awaited]
    split
    case isTrue same => simp [same, unawaited]
    case isFalse => exact h.awaited_iff other
  · intro other
    rw [connections, session, current]
    split
    case isTrue same =>
      rw [same]
      exact iff_of_false (fun now => now.not_pending pending) nofun
    case isFalse => exact h.current_iff other
  · simpa only [session, awaited] using h.connecting
  · simpa only [session, current] using h.connected_iff

/-- The answer to the attempt that counts, which makes a connection if it is given a generation. -/
theorem concluded (h : Held steps r) (awaits : Awaited steps attempt) {connection : Option Nat}
    (made : connection = some r'.session.link.generation ∧ answer = .ok () ∧
        r'.session.link.state = .connected ∧
        r'.session.link.generation = r.session.link.generation + 1 ∨
      connection = none ∧ answer ≠ .ok () ∧ r'.session.link.state = .disconnected ∧
        r'.session.link.generation = r.session.link.generation)
    (openings : r'.openings = r.openings.set attempt ⟨.finished outcome, connection⟩) :
    Held (steps ++ [.answer attempt answer]) r' := by
  have bound : attempt < r.openings.length := h.length ▸ awaits.pending.lt_startsIn
  have attempts := SessionRun.attempt?_set openings
  have connections := SessionRun.connection?_set openings bound
  have grown : r.session.link.generation ≤ r'.session.link.generation := by omega
  have state : r'.session.link.state ≠ .connecting := by
    obtain ⟨-, -, state, -⟩ | ⟨-, -, state, -⟩ := made <;> simp [state]
  have absent (other : Nat) : ¬Current steps other :=
    fun now => h.not_awaited_of_current now attempt awaits
  have awaited (other : Nat) : ¬Awaited (steps ++ [.answer attempt answer]) other := by
    rw [awaited_answer]
    rintro ⟨now, apart⟩
    have last := awaits.startsIn_eq
    have last' := now.startsIn_eq
    omega
  have current (other : Nat) : Current (steps ++ [.answer attempt answer]) other ↔
      other = attempt ∧ answer = .ok () := by
    simp [current_answer, awaits, absent]
  -- An earlier connection has the new generation only if that is the old one, and then it was current.
  have old (other : Nat) : r.connection? other ≠ some r'.session.link.generation := by
    intro found
    have same := Nat.le_antisymm (h.connection_le other _ found) grown
    exact absent other ((h.current_iff other).mpr (same ▸ found))
  constructor
  · rw [openings, List.length_set, h.length, startsIn_concat]
    rfl
  · intro other
    rw [attempts, pending_answer, ← h.pending_iff]
    split <;> simp [*]
  · intro other g found
    rw [attempts] at found
    split at found
    · cases found
    · exact Nat.le_trans (h.attempt_le other g found) grown
  · intro other g found
    rw [connections] at found
    split at found
    · obtain ⟨given, -⟩ | ⟨given, -⟩ := made
      · exact Nat.le_of_eq (Option.some.inj (found.symm.trans given))
      · rw [given] at found
        cases found
    · exact Nat.le_trans (h.connection_le other g found) grown
  · simp [awaited, state]
  · intro other
    rw [connections, current]
    split
    case isTrue same =>
      obtain ⟨given, yes, -⟩ | ⟨given, no, -⟩ := made
      · simp [same, given, yes]
      · simp [given, no]
    case isFalse apart => simp [apart, old other]
  · exact fun connecting => absurd connecting state
  · obtain ⟨-, yes, state, -⟩ | ⟨-, no, state, -⟩ := made
    · exact iff_of_true state ⟨attempt, (current attempt).mpr ⟨rfl, yes⟩⟩
    · simp [current, state, no]

end answer

theorem awaits_iff (h : Held steps r) {attempt generation : Nat}
    (waits : r.attempt? attempt = some generation) :
    r.session.link.awaits generation = true ↔ Awaited steps attempt := by
  rw [h.awaited_iff, waits, Link.awaits, Bool.and_eq_true, beq_iff_eq, beq_iff_eq, Option.some.injEq,
    eq_comm, and_comm]

theorem waiting_of_awaited (h : Held steps r) {attempt : Nat} (awaited : Awaited steps attempt) :
    ∃ address connection,
      r.openings[attempt]? = some ⟨.waiting address r.session.link.generation, connection⟩ ∧
        r.session.link.awaits r.session.link.generation = true := by
  have waits := ((h.awaited_iff attempt).mp awaited).2
  obtain ⟨address, connection, found⟩ := SessionRun.attempt?_eq_some_iff.mp waits
  exact ⟨address, connection, found, (h.awaits_iff waits).mpr awaited⟩

theorem aside (h : Held steps r) (quiet : s.interrupts = false)
    (unanswered : ∀ attempt, s.answers attempt = false) (kept : ∀ attempt, s.loses attempt = false)
    (openings : r'.openings = r.openings) (state : r'.session.link.state = r.session.link.state)
    (generation : r'.session.link.generation = r.session.link.generation) : Held (steps ++ [s]) r' := by
  have starts : s.isStart = false := by
    cases s with
    | start _ => cases quiet
    | _ => rfl
  have other (attempt : Nat) : s ≠ .answer attempt (.ok ()) := by
    rintro rfl
    simpa [answers] using unanswered attempt
  refine h.calm openings state generation starts ?_ ?_ ?_
  · simp [pending_concat, starts, unanswered]
  · simp [awaited_concat, starts, quiet, unanswered]
  · simp [current_concat, other, quiet, kept]

section step

variable [KeyValueStore S] [ServiceLookup D]

theorem answer (h : Held steps r) (attempt : Nat) (answer : Except ReachError Unit) :
    Held (steps ++ [.answer attempt answer]) (r.answer attempt answer) := by
  cases waits : r.attempt? attempt with
  | none =>
      have idle : ¬Pending steps attempt := by
        rw [← h.pending_iff, waits]
        exact Bool.false_ne_true
      have unawaited : ¬Awaited steps attempt := fun awaited => idle awaited.pending
      rw [SessionRun.answer_of_none answer waits]
      refine h.calm rfl rfl rfl rfl ?_ ?_ ?_
      · intro other
        rw [pending_answer]
        exact and_iff_left_of_imp fun now same => idle (same ▸ now)
      · intro other
        rw [awaited_answer]
        exact and_iff_left_of_imp fun now same => unawaited (same ▸ now)
      · intro other
        rw [current_answer]
        exact or_iff_right fun made => unawaited made.2.2
  | some generation =>
      obtain ⟨address, connection, found⟩ := SessionRun.attempt?_eq_some_iff.mp waits
      have pending : Pending steps attempt := (h.pending_iff attempt).mp (by rw [waits]; rfl)
      have counts := h.awaits_iff waits
      rw [SessionRun.answer_of_waiting answer found]
      cases awaits : r.session.link.awaits generation with
      | false =>
          rw [awaits] at counts
          rw [Session.conclude_of_not_awaits address answer awaits]
          exact h.refused pending (fun now => Bool.false_ne_true (counts.mpr now)) rfl rfl
      | true =>
          have awaited := counts.mp awaits
          cases answer with
          | ok _ =>
              rw [Session.conclude_ok address awaits]
              refine h.concluded awaited (.inl ⟨rfl, rfl, ?_, ?_⟩) rfl
              · simp only [Link.succeed, awaits, if_true]
              · simp only [Link.succeed, awaits, if_true]
          | error e =>
              refine h.concluded awaited (.inr ⟨rfl, nofun, ?_, ?_⟩) rfl
              · simp only [Session.conclude, Link.fail, awaits, if_true]
              · simp only [Session.conclude, Link.fail, awaits, if_true]

theorem lose_of_not_current (h : Held steps r) {attempt : Nat} (reason : String)
    (stale : ¬Current steps attempt) : r.step (.lose attempt reason) = r := by
  rw [h.current_iff] at stale
  simp only [SessionRun.step]
  cases made : r.connection? attempt with
  | none => rfl
  | some generation =>
      have apart : r.session.link.generation ≠ generation := by
        rintro rfl
        exact stale made
      simp only [Session.lose, Link.lose, beq_eq_false_iff_ne.mpr apart, Bool.false_eq_true, if_false]

theorem lose_of_current (h : Held steps r) {attempt : Nat} (reason : String)
    (current : Current steps attempt) :
    r.step (.lose attempt reason) =
      { r with
        session := { r.session with
          link := { r.session.link.cut with state := .disconnected, lastError := some reason } } } := by
  rw [h.current_iff] at current
  simp only [SessionRun.step, current, Session.lose, Link.lose, BEq.rfl, if_true]

theorem lose (h : Held steps r) (attempt : Nat) (reason : String) :
    Held (steps ++ [.lose attempt reason]) (r.step (.lose attempt reason)) := by
  have pending (other : Nat) :
      Pending (steps ++ [.lose attempt reason]) other ↔ Pending steps other := by
    simp [pending_concat, isStart, answers]
  have awaited (other : Nat) :
      Awaited (steps ++ [.lose attempt reason]) other ↔ Awaited steps other := by
    simp [awaited_concat, isStart, interrupts, answers]
  have current (other : Nat) :
      Current (steps ++ [.lose attempt reason]) other ↔ Current steps other ∧ attempt ≠ other := by
    simp [current_concat, interrupts, loses]
  by_cases lost : Current steps attempt
  · rw [h.lose_of_current reason lost]
    refine h.ended rfl rfl rfl rfl pending ?_ ?_
    · intro other
      rw [awaited]
      exact h.not_awaited_of_current lost other
    · intro other
      rw [current]
      rintro ⟨now, apart⟩
      have last := lost.startsIn_eq
      have last' := now.startsIn_eq
      omega
  · rw [h.lose_of_not_current reason lost]
    refine h.calm rfl rfl rfl rfl pending awaited ?_
    intro other
    rw [current]
    exact and_iff_left_of_imp fun now same => lost (same ▸ now)

theorem step (h : Held steps r) (s : SessionStep) : Held (steps ++ [s]) (r.step s) := by
  cases s with
  | start address => exact h.start address
  | answer attempt answer => exact h.answer attempt answer
  | lose attempt reason => exact h.lose attempt reason
  | disconnect =>
      refine h.ended rfl rfl rfl rfl ?_ ?_ ?_
      · simp [pending_concat, isStart, answers]
      · simp [awaited_concat, isStart, interrupts]
      · simp [current_concat, interrupts]
  | forget =>
      refine h.ended rfl rfl rfl rfl ?_ ?_ ?_
      · simp [pending_concat, isStart, answers]
      · simp [awaited_concat, isStart, interrupts]
      · simp [current_concat, interrupts]
  | send p =>
      refine h.aside rfl (fun _ => rfl) (fun _ => rfl) rfl ?_ ?_
      · simp only [SessionRun.step, Session.send, Link.send]
        split <;> rfl
      · simp only [SessionRun.step, Session.send, Link.send]
        split <;> rfl
  | aim target => exact h.aside rfl (fun _ => rfl) (fun _ => rfl) rfl rfl rfl
  | stop attempt =>
      refine h.aside rfl (fun _ => rfl) (fun _ => rfl) ?_ ?_ ?_
      all_goals
        simp only [SessionRun.step]
        split <;> rfl

theorem after (store : Option S) (directory : Option D) (steps : List SessionStep) :
    Held steps (SessionRun.after store directory steps) := by
  induction steps using List.reverseRecOn with
  | nil => exact initial store directory
  | append_singleton steps s ih =>
      rw [SessionRun.after_concat]
      exact ih.step s

end step

end Held

/-- What every run of a session keeps to. -/
structure SupersessionLaw {S D : Type} [KeyValueStore S] [ServiceLookup D] (steps : List SessionStep)
    (r : SessionRun S D) : Prop where
  /-- The session is connected exactly while the connection of the attempt that started last is there. -/
  connected_iff : r.session.link.state = .connected ↔ ∃ attempt, Current steps attempt
  connecting_iff : r.session.link.state = .connecting ↔ ∃ attempt, Awaited steps attempt
  /-- The answer to a superseded attempt is an error for whoever made it and changes nothing. -/
  superseded : ∀ attempt answer, Superseded steps attempt →
    (r.step (.answer attempt answer)).session = r.session ∧
      (r.step (.answer attempt answer)).openings[attempt]? =
        some ⟨.finished (.error (refusal answer)), none⟩
  /-- The attempt that counts hands over what waits when it succeeds, and ends the session's attempt when
  it fails. -/
  succeeded : ∀ attempt, Awaited steps attempt →
    let next := r.step (.answer attempt (.ok ()))
    next.session.link.state = .connected ∧
      next.openings[attempt]?.map Opening.stage = some (.finished (.ok r.session.link.queue))
  failed : ∀ attempt e, Awaited steps attempt →
    let next := r.step (.answer attempt (.error e))
    next.session.link.state = .disconnected ∧
      next.openings[attempt]?.map Opening.stage = some (.finished (.error (.io e.message)))
  /-- What another connection than the current one reports changes nothing. -/
  stale : ∀ attempt reason, ¬Current steps attempt → r.step (.lose attempt reason) = r
  lost : ∀ attempt reason, Current steps attempt →
    let next := r.step (.lose attempt reason)
    next.session.link.state = .disconnected ∧ next.session.link.lastError = some reason

theorem supersession_law {S D : Type} [KeyValueStore S] [ServiceLookup D] (store : Option S)
    (directory : Option D) (steps : List SessionStep) :
    SupersessionLaw steps (SessionRun.after store directory steps) := by
  have held := Held.after store directory steps
  generalize SessionRun.after store directory steps = r at held
  refine ⟨held.connected_iff, ⟨held.connecting, ?_⟩, ?_, ?_, ?_, ?_, ?_⟩
  · rintro ⟨attempt, awaited⟩
    exact ((held.awaited_iff attempt).mp awaited).1
  · intro attempt answer superseded
    obtain ⟨generation, waits⟩ :=
      Option.isSome_iff_exists.mp ((held.pending_iff attempt).mpr superseded.pending)
    obtain ⟨address, connection, found⟩ := SessionRun.attempt?_eq_some_iff.mp waits
    have late : r.session.link.awaits generation = false := by
      rw [← Bool.not_eq_true, held.awaits_iff waits]
      exact superseded.not_awaited
    have bound := (List.getElem?_eq_some_iff.mp found).1
    rw [SessionRun.step, SessionRun.answer_of_waiting answer found,
      Session.conclude_of_not_awaits address answer late]
    exact ⟨rfl, List.getElem?_set_self bound⟩
  · intro attempt awaited next
    obtain ⟨address, connection, found, counts⟩ := held.waiting_of_awaited awaited
    have bound := (List.getElem?_eq_some_iff.mp found).1
    have after := held.step (.answer attempt (.ok ()))
    refine ⟨after.connected_iff.mpr ⟨attempt, .made awaited⟩, ?_⟩
    have made : next = r.answer attempt (.ok ()) := rfl
    rw [made, SessionRun.answer_of_waiting _ found, Session.conclude_ok address counts,
      List.getElem?_set_self bound]
    rfl
  · intro attempt e awaited next
    obtain ⟨address, connection, found, counts⟩ := held.waiting_of_awaited awaited
    have bound := (List.getElem?_eq_some_iff.mp found).1
    have made : next = r.answer attempt (.error e) := rfl
    rw [made, SessionRun.answer_of_waiting _ found, List.getElem?_set_self bound]
    refine ⟨?_, rfl⟩
    simp only [Session.conclude, Link.fail, counts, if_true]
  · exact fun attempt reason stale => held.lose_of_not_current reason stale
  · intro attempt reason current
    rw [held.lose_of_current reason current]
    exact ⟨rfl, rfl⟩

end Switchboard
