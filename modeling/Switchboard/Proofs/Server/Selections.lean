import Switchboard.Proofs.Router.Selections
import Switchboard.Proofs.Server.Loop
import Switchboard.Proofs.Server.Registry

/-!
The counters of chosen protocols. The server compares the active protocol before a chunk with the one after
it, so it counts one choice at most for each chunk. What is missing from the counters are the choices in
chunks that leave a protocol as well: the protocol chosen last is counted once, or not at all when it was
left again or was the active one before.
-/

namespace Switchboard

namespace Labelled

variable {α : Type} {start : α} {label : String} {f : α → α}

theorem lookup_change (entries : Labelled α) (other : String) :
    (change start label f entries).lookup other =
      if other = label then some (f ((entries.lookup label).getD start)) else entries.lookup other := by
  induction entries with
  | nil =>
      by_cases same : other = label
      · simp [change, same]
      · simp [change, same, List.lookup_cons, beq_eq_false_iff_ne.mpr same]
  | cons entry rest ih =>
      obtain ⟨name, value⟩ := entry
      rw [change]
      split
      case isTrue here =>
        obtain rfl := beq_iff_eq.mp here
        by_cases same : other = name
        · simp [same]
        · simp [same, List.lookup_cons, beq_eq_false_iff_ne.mpr same]
      case isFalse elsewhere =>
        have apart : (label == name) = false :=
          beq_eq_false_iff_ne.mpr fun same => elsewhere (beq_iff_eq.mpr same.symm)
        rw [List.lookup_cons, List.lookup_cons, List.lookup_cons, apart, ih]
        by_cases same : other = name
        · subst same
          have unlike : other ≠ label := fun same => elsewhere (beq_iff_eq.mpr same)
          simp [unlike]
        · rw [beq_eq_false_iff_ne.mpr same]

end Labelled

/-- Counters, which run round, that show how often each of some keys is there. -/
def Tallies (counters : Labelled UInt64) (keys : List String) : Prop :=
  ∀ key, counters.lookup key = if key ∈ keys then some (.ofNat (keys.count key)) else none

theorem Tallies.count {counters : Labelled UInt64} {keys : List String} (h : Tallies counters keys)
    (key : String) : Tallies (Labelled.change 0 key (· + 1) counters) (keys ++ [key]) := by
  intro other
  rw [Labelled.lookup_change, h, h, List.count_append]
  by_cases same : other = key
  · subst same
    by_cases there : other ∈ keys
    · simp [there]
    · simp [there, List.count_eq_zero_of_not_mem there]
  · have apart : ¬ key = other := fun h => same h.symm
    simp [same, apart]

namespace Framer

theorem length_accept (f : Framer) (bytes : List UInt8) :
    (f.accept bytes).1.lines.length = f.lines.length + (splitLines bytes).1.length := by
  unfold accept
  obtain ⟨ended, rest⟩ := splitLines bytes
  cases ended with
  | nil =>
      dsimp only
      split <;> rfl
  | cons line more =>
      dsimp only
      split <;> exact List.length_append

/-- Bytes end no more lines than there are ends among them. -/
theorem length_feed_le (f : Framer) (bytes : List UInt8) :
    (f.feed bytes).1.lines.length ≤ f.lines.length + (splitLines bytes).1.length := by
  rw [feed]
  split
  case isFalse _ => exact (length_accept f bytes).le
  case isTrue _ =>
    cases found : afterLineEnd? bytes with
    | none => exact Nat.le_add_right _ _
    | some rest =>
        obtain ⟨line, cut⟩ := splitLines_of_afterLineEnd?_eq_some found
        have accepted := length_accept f rest
        rw [cut, List.length_cons]
        dsimp only
        omega

end Framer

variable {W I : Type} [Protocol W I]

namespace Connection

variable {c : Connection W I}

theorem router_receive (still : c.finished = false) (bytes : List UInt8) (w : W) :
    (c.receive bytes w).2.1.router =
      (c.router.afterAll ((c.exchangesOf bytes w).map Exchange.request) w).1 := by
  rw [receive_eq still rfl rfl]
  rfl

theorem lines_receive (still : c.finished = false) (bytes : List UInt8) (w : W) :
    (c.receive bytes w).2.1.framer.lines = [] := by
  rw [receive_eq still rfl rfl]
  rfl

end Connection

/-- A chunk that a connection handles, and the world as it is then. -/
structure ChunkRead (W I : Type) where
  live : Live W I
  bytes : List UInt8
  world : W

namespace ChunkRead

/-- The requests that the chunk brings to the router. -/
def requests (c : ChunkRead W I) : List StreamRequest :=
  (c.live.connection.exchangesOf c.bytes c.world).map Exchange.request

/-- The protocols that they choose. -/
def selected (c : ChunkRead W I) : List String :=
  c.live.connection.router.selections c.requests c.world

/-- The protocol whose counter is increased. -/
def counted? (c : ChunkRead W I) : Option String :=
  (c.live.read c.bytes c.world).1.chosen

def Plain (c : ChunkRead W I) : Prop :=
  c.live.connection.router.SelectPlainly c.requests c.world

end ChunkRead

/-- A connection between two turns. -/
structure Live.Ready (l : Live W I) : Prop where
  ended : l.ended = l.connection.finished
  settled : l.connection.router.Settled
  drained : l.connection.framer.lines = []

namespace Live.Ready

variable {l : Live W I}

omit [Protocol W I] in
theorem start (registry : Registry W I) (name : String) (limit : Nat) : Ready (.start registry name limit) where
  ended := rfl
  settled := Router.settled_of_choosing rfl
  drained := rfl

theorem turn (h : Ready l) (t : LoopTurn W) : Ready (l.turn t) := by
  cases t with
  | handle bytes seconds w =>
      rw [Live.turn]
      split
      case isTrue _ => exact h
      case isFalse running =>
        have still : l.connection.finished = false := h.ended ▸ Bool.eq_false_iff.mpr running
        refine ⟨rfl, ?_, Connection.lines_receive still bytes w⟩
        have settled := Router.settled_afterAll h.settled
          ((l.connection.exchangesOf bytes w).map Exchange.request) w
        rw [← Connection.router_receive still] at settled
        exact settled
  | emit p => exact ⟨h.ended, h.settled, h.drained⟩
  | collect =>
      rw [Live.turn, collect]
      split
      · exact h
      · exact ⟨h.ended, h.settled, h.drained⟩
  | expire =>
      rw [Live.turn, expire]
      split
      · exact ⟨h.ended, h.settled, h.drained⟩
      · exact h

end Live.Ready

namespace ChunkRead

variable {c : ChunkRead W I}

/-- The server compares the active protocol before the chunk with that after it. -/
theorem counted?_eq (ready : c.live.Ready) (running : c.live.ended = false) :
    c.counted? = c.live.connection.router.noticed? c.requests c.world := by
  have router := Connection.router_receive (ready.ended ▸ running) c.bytes c.world
  have key : (c.live.connection.receive c.bytes c.world).2.1.activeKey =
      (c.live.connection.router.afterAll c.requests c.world).1.activeKey :=
    congrArg Router.activeKey router
  rw [Router.noticed?, ← key]
  rfl

/-- A chunk in which one line ends at most chooses plainly, also when it makes the next line too long. -/
theorem plain_of_line (steady : SteadyKeys W I) (ready : c.live.Ready)
    (short : (splitLines c.bytes).1.length ≤ 1) : c.Plain := by
  have lines := Framer.length_feed_le c.live.connection.framer c.bytes
  rw [ready.drained, List.length_nil, Nat.zero_add] at lines
  have settled := ready.settled
  rw [Plain, requests, Connection.exchangesOf]
  generalize c.live.connection.router = r at settled ⊢
  rcases fed : c.live.connection.framer.feed c.bytes with ⟨framer, tooLong⟩
  rw [fed] at lines
  dsimp only at lines ⊢
  generalize made : framer.lines.map StreamRequest.ofLine = messages
  have few : messages.length ≤ 1 := by
    rw [← made, List.length_map]
    exact lines.trans short
  rw [Router.converse_append]
  cases ended : (r.converse messages c.world).any Exchange.ends with
  | true =>
      rw [upToGoodbye_append_of_ended ended]
      refine Router.selectPlainly_of_short ?_ c.world
      rw [List.length_map, upToGoodbye, List.length_take, ← List.length_map (f := Exchange.request),
        Router.map_request_converse]
      omega
  | false =>
      have plain := Router.selectPlainly_of_short (r := r) few c.world
      rw [upToGoodbye_append_of_open ended, List.map_append, Router.map_request_converse]
      cases tooLong with
      | none =>
          rw [show (none : Option Nat).isSome = false from rfl, if_neg Bool.false_ne_true]
          exact (List.append_nil messages).symm ▸ plain
      | some size =>
          have ping (next : Router W I) (w : W) :
              (upToGoodbye (next.converse [.overlong] w)).map Exchange.request = [.overlong] := rfl
          rw [show (some size).isSome = true from rfl, if_pos rfl, ping]
          exact Router.selectPlainly_concat_overlong steady settled plain

end ChunkRead

namespace Server

/-- The chunk that a step gives a connection to handle. -/
def readOf? (s : Server W I) : ServeStep W → Option (ChunkRead W I)
  | .turn name (.handle bytes _ w) =>
    match s.live.lookup name with
    | none => none
    | some l => if l.ended then none else some ⟨l, bytes, w⟩
  | _ => none

omit [Protocol W I] in
theorem readOf?_eq_some {s : Server W I} {x : ServeStep W} {c : ChunkRead W I} (read : s.readOf? x = some c) :
    ∃ name seconds, x = .turn name (.handle c.bytes seconds c.world) ∧ s.live.lookup name = some c.live ∧
      c.live.ended = false := by
  rw [readOf?.eq_def] at read
  split at read
  case h_2 => cases read
  case h_1 name bytes seconds w =>
    split at read
    case h_1 => cases read
    case h_2 l found =>
      split at read
      case isTrue _ => cases read
      case isFalse running =>
        cases read
        exact ⟨name, seconds, rfl, found, Bool.eq_false_iff.mpr running⟩

/-- The chunks that are handled in some steps. -/
def readsOf (s : Server W I) : List (ServeStep W) → List (ChunkRead W I)
  | [] => []
  | x :: rest => (s.readOf? x).toList ++ (s.step x).readsOf rest

theorem readsOf_append (s : Server W I) (earlier later : List (ServeStep W)) :
    s.readsOf (earlier ++ later) = s.readsOf earlier ++ (earlier.foldl step s).readsOf later := by
  induction earlier generalizing s with
  | nil => rfl
  | cons x rest ih => rw [List.cons_append, readsOf, readsOf, ih, List.append_assoc, List.foldl_cons]

/-- A turn leaves the connections as they are, or changes the one whose turn it is. -/
theorem live_takeTurn (s : Server W I) (name : String) (t : LoopTurn W) : (s.takeTurn name t).live = s.live ∨
    ∃ l, s.live.lookup name = some l ∧ (s.takeTurn name t).live = (s.setLive name (l.turn t)).live := by
  cases found : s.live.lookup name with
  | none =>
      left
      cases t <;> simp [takeTurn, handle, emit, collect, expire, changeLive, found]
  | some l =>
      cases t with
      | handle bytes seconds w =>
          rw [takeTurn, handle, found]
          dsimp only
          split
          case isTrue _ => exact .inl rfl
          case isFalse running => exact .inr ⟨l, rfl, by rw [Live.turn, if_neg running]⟩
      | emit p =>
          rw [takeTurn, emit, changeLive, found]
          exact .inr ⟨l, rfl, rfl⟩
      | collect =>
          rw [takeTurn, collect, changeLive, found]
          exact .inr ⟨l, rfl, rfl⟩
      | expire =>
          rw [takeTurn, expire, found]
          dsimp only
          split
          case isTrue _ => exact .inr ⟨l, rfl, rfl⟩
          case isFalse _ => exact .inl rfl

/-- What holds of connections at the start and through their turns holds of all that are live. -/
theorem forall_step {P : Live W I → Prop}
    (fresh : ∀ (registry : Registry W I) name limit, P (.start registry name limit))
    (turned : ∀ (l : Live W I) (t : LoopTurn W), P l → P (l.turn t)) {s : Server W I}
    (all : ∀ entry ∈ s.live, P entry.2) (x : ServeStep W) : ∀ entry ∈ (s.step x).live, P entry.2 := by
  intro entry member
  cases x with
  | accept name =>
      obtain old | new := List.mem_append.mp member
      · exact all entry old
      · rw [List.mem_singleton.mp new]
        exact fresh _ _ _
  | finish name w =>
      rw [step, finish_eq] at member
      exact all entry (List.mem_of_mem_filter member)
  | turn name t =>
      obtain same | ⟨l, found, set⟩ := live_takeTurn s name t
      · rw [step, same] at member
        exact all entry member
      · rw [step, set] at member
        have there : P l := all (name, l) (Association.mem_of_lookup_eq_some found)
        obtain ⟨old, listed, rfl⟩ := List.mem_map.mp member
        split
        · exact turned l t there
        · exact all old listed

theorem selections_count (m : Metrics) (received : Nat) (seconds : Binary64) (h : Handled) :
    (count m received seconds h).selections =
      h.chosen.elim m.selections fun key => Labelled.change 0 key (· + 1) m.selections := by
  have handled (actions : List String) :
      (actions.foldl (fun m action => m.handle action seconds) m).selections = m.selections := by
    induction actions generalizing m with
    | nil => rfl
    | cons action rest ih => exact ih (m.handle action seconds)
  rw [count]
  cases h.chosen with
  | none => exact handled h.actions
  | some key => exact congrArg (Labelled.change 0 key (· + 1)) (handled h.actions)

/-- Only a chunk changes the counters of chosen protocols, and only the one that it is counted under. -/
theorem selections_step (s : Server W I) (x : ServeStep W) : (s.step x).metrics.selections =
    ((s.readOf? x).bind ChunkRead.counted?).elim s.metrics.selections
      fun key => Labelled.change 0 key (· + 1) s.metrics.selections := by
  cases x with
  | accept name => rfl
  | finish name w =>
      rw [step, finish_eq]
      dsimp only
      split <;> rfl
  | turn name t =>
      cases found : s.live.lookup name with
      | none =>
          cases t <;> simp [step, takeTurn, handle, emit, collect, expire, changeLive, found, readOf?]
      | some l =>
          cases t with
          | handle bytes seconds w =>
              rw [step, takeTurn, handle, readOf?, found]
              dsimp only
              split
              case isTrue _ => rfl
              case isFalse _ => exact selections_count _ _ _ _
          | emit p =>
              rw [step, takeTurn, emit, changeLive, found]
              rfl
          | collect =>
              rw [step, takeTurn, collect, changeLive, found]
              rfl
          | expire =>
              rw [step, takeTurn, expire, found]
              dsimp only
              split <;> rfl

end Server

section run

variable (registry : Registry W I) (serviceName : String) (limit : Nat)

/-- The chunks that are handled in some steps, since the server began to serve. -/
def readsIn (steps : List (ServeStep W)) : List (ChunkRead W I) :=
  (served registry serviceName limit []).readsOf steps

/-- The protocols that the requests of all connections chose, one for each request that chose one. -/
def selectedIn (steps : List (ServeStep W)) : List String :=
  (readsIn registry serviceName limit steps).flatMap ChunkRead.selected

/-- The protocols that were counted. -/
def countedIn (steps : List (ServeStep W)) : List String :=
  (readsIn registry serviceName limit steps).filterMap ChunkRead.counted?

variable {registry serviceName limit} {steps : List (ServeStep W)}

theorem readsIn_concat (x : ServeStep W) : readsIn registry serviceName limit (steps ++ [x]) =
    readsIn registry serviceName limit steps ++
      ((served registry serviceName limit steps).readOf? x).toList := by
  rw [readsIn, Server.readsOf_append, Server.readsOf, Server.readsOf, List.append_nil]
  rfl

theorem ready_served : ∀ entry ∈ (served registry serviceName limit steps).live, entry.2.Ready := by
  induction steps using List.reverseRecOn with
  | nil =>
      intro entry member
      cases member
  | append_singleton steps x ih =>
      rw [served_concat]
      exact Server.forall_step Live.Ready.start (fun l t ready => ready.turn t) ih x

theorem ready_of_mem_readsIn {c : ChunkRead W I} (member : c ∈ readsIn registry serviceName limit steps) :
    c.live.Ready ∧ c.live.ended = false := by
  induction steps using List.reverseRecOn with
  | nil => cases member
  | append_singleton steps x ih =>
      rw [readsIn_concat, List.mem_append, Option.mem_toList] at member
      obtain earlier | now := member
      · exact ih earlier
      · obtain ⟨name, seconds, -, found, running⟩ := Server.readOf?_eq_some now
        exact ⟨ready_served (name, c.live) (Association.mem_of_lookup_eq_some found), running⟩

theorem tallies_served : Tallies (served registry serviceName limit steps).metrics.selections
    (countedIn registry serviceName limit steps) := by
  induction steps using List.reverseRecOn with
  | nil =>
      intro key
      rfl
  | append_singleton steps x ih =>
      rw [served_concat, Server.selections_step, countedIn, readsIn_concat, List.filterMap_append, ← countedIn]
      cases (served registry serviceName limit steps).readOf? x with
      | none => simpa using ih
      | some c =>
          cases counted : c.counted? with
          | none => simpa [counted] using ih
          | some key => simpa [counted] using ih.count key

end run

section comparison

variable {reads : List (ChunkRead W I)} (each : ∀ c ∈ reads, c.counted?.toList.Sublist c.selected)

include each

theorem filterMap_counted?_sublist :
    (reads.filterMap ChunkRead.counted?).Sublist (reads.flatMap ChunkRead.selected) := by
  rw [List.filterMap_eq_flatMap_toList]
  induction reads with
  | nil => exact List.Sublist.refl []
  | cons c rest ih =>
      obtain ⟨first, later⟩ := List.forall_mem_cons.mp each
      rw [List.flatMap_cons, List.flatMap_cons]
      exact first.append (ih later)

/-- All is counted only where everything is counted in each chunk. -/
theorem counted?_eq_of_length
    (all : (reads.filterMap ChunkRead.counted?).length = (reads.flatMap ChunkRead.selected).length) :
    ∀ c ∈ reads, c.counted?.toList = c.selected := by
  induction reads with
  | nil =>
      intro c member
      cases member
  | cons c rest ih =>
      obtain ⟨first, later⟩ := List.forall_mem_cons.mp each
      have less := first.length_le
      have fewer := (filterMap_counted?_sublist later).length_le
      rw [List.filterMap_eq_flatMap_toList] at all fewer ih
      rw [List.flatMap_cons, List.flatMap_cons, List.length_append, List.length_append] at all
      refine List.forall_mem_cons.mpr ⟨first.eq_of_length (by omega), ih later (by omega)⟩

end comparison

section plain

variable (steady : SteadyKeys W I) {registry : Registry W I} {serviceName : String} {limit : Nat}
variable {steps : List (ServeStep W)} {c : ChunkRead W I}

theorem counted?_of_mem_readsIn (member : c ∈ readsIn registry serviceName limit steps) :
    c.counted? = c.live.connection.router.noticed? c.requests c.world := by
  obtain ⟨ready, running⟩ := ready_of_mem_readsIn member
  exact c.counted?_eq ready running

include steady

theorem counted?_sublist_of_mem_readsIn (member : c ∈ readsIn registry serviceName limit steps) :
    c.counted?.toList.Sublist c.selected := by
  rw [counted?_of_mem_readsIn member]
  exact Router.sublist_of_noticed steady (ready_of_mem_readsIn member).1.settled _ _

/-- What was chosen in a chunk is counted when it chose plainly, and only then. -/
theorem counted?_eq_selected_iff (member : c ∈ readsIn registry serviceName limit steps) :
    c.counted?.toList = c.selected ↔ c.Plain := by
  rw [counted?_of_mem_readsIn member]
  exact Router.noticed_eq_iff steady (ready_of_mem_readsIn member).1.settled _ _

theorem countedIn_sublist : (countedIn registry serviceName limit steps).Sublist
    (selectedIn registry serviceName limit steps) :=
  filterMap_counted?_sublist fun _ member => counted?_sublist_of_mem_readsIn steady member

theorem countedIn_eq_selectedIn (plain : ∀ c ∈ readsIn registry serviceName limit steps, c.Plain) :
    countedIn registry serviceName limit steps = selectedIn registry serviceName limit steps := by
  rw [countedIn, selectedIn, List.filterMap_eq_flatMap_toList]
  exact List.flatMap_congr fun c member => (counted?_eq_selected_iff steady member).mpr (plain c member)

/-- As many of each are counted as were chosen only where every chunk chooses plainly. -/
theorem forall_plain_of_count
    (counts : ∀ key, (countedIn registry serviceName limit steps).count key =
      (selectedIn registry serviceName limit steps).count key) :
    ∀ c ∈ readsIn registry serviceName limit steps, c.Plain := by
  intro c member
  have lengths := (List.perm_iff_count.mpr counts).length_eq
  have same := counted?_eq_of_length (fun _ member => counted?_sublist_of_mem_readsIn steady member) lengths
  exact (counted?_eq_selected_iff steady member).mp (same c member)

end plain

namespace Conversed

variable {router : Router W I} {limit : Nat} {world : W} {chunks : List (List UInt8)} {r : ConnectionRun W I}

theorem takeDropped (h : Conversed router limit world chunks r) :
    Conversed router limit world chunks { r with connection := r.connection.takeDropped.2 } :=
  ⟨h.length, h.timely, h.handled, h.reached, h.finished, h.framed⟩

/-- What a chunk adds to the conversation are the exchanges of the chunk. -/
theorem grown (h : Conversed router limit world chunks r) (still : r.connection.finished = false)
    (chunk : List UInt8) : conversation router limit world (chunks ++ [chunk]) =
      conversation router limit world chunks ++ r.connection.exchangesOf chunk r.world := by
  have finished := h.finished
  rw [still] at finished
  have reached := h.reached
  rw [map_request_conversation_of_open finished.symm] at reached
  rw [conversation_concat_of_open finished.symm, ← reached, Connection.exchangesOf]
  rcases feed : r.connection.framer.feed chunk with ⟨framer, tooLong⟩
  obtain ⟨made, -⟩ := (h.framed still).receive feed
  rw [← made]

variable {w : W} {l : Live W I} {replies : List (List Payload)} {counted : List String}

/-- A live connection goes on with the conversation, and what is chosen in it is chosen in its chunks. -/
theorem read (h : Conversed router limit world chunks { connection := l.connection, world := w, replies, counted })
    (same : l.ended = l.connection.finished) (bytes : List UInt8) :
    (∃ replies counted, Conversed router limit world (chunks ++ [bytes])
      { connection := (l.step (.read bytes) w).2.1.connection, world := (l.step (.read bytes) w).2.2,
        replies, counted }) ∧
      router.selections ((conversation router limit world (chunks ++ [bytes])).map Exchange.request) world =
        router.selections ((conversation router limit world chunks).map Exchange.request) world ++
          if l.ended then [] else ChunkRead.selected ⟨l, bytes, w⟩ := by
  have next := h.receive bytes
  cases ended : l.ended with
  | true =>
      have ceased : l.connection.finished = true := same ▸ ended
      have stays : l.step (.read bytes) w = ([], l, w) := if_pos ended
      rw [ConnectionRun.call, Connection.receive_of_finished ceased] at next
      rw [stays, conversation_concat_of_ended (h.finished.symm.trans ceased), if_pos rfl, List.append_nil]
      exact ⟨⟨_, _, next⟩, rfl⟩
  | false =>
      have still : l.connection.finished = false := same ▸ ended
      have goes : (l.step (.read bytes) w).2 = (l.read bytes w).2 := by
        rw [Live.step, if_neg (Bool.eq_false_iff.mp ended)]
      rw [goes]
      refine ⟨⟨_, _, next.takeHandled.takeDropped⟩, ?_⟩
      rw [h.grown still bytes, List.map_append, Router.selections_append, ← h.reached,
        if_neg Bool.false_ne_true]
      rfl

end Conversed

/-- The steps of a connection that gets some chunks while nothing else acts on the world. -/
def chunkSteps (name : String) (l : Live W I) : List (List UInt8) → W → List (ServeStep W)
  | [], _ => []
  | bytes :: rest, w =>
    let (_, next, w') := l.step (.read bytes) w
    .turn name (.handle bytes (.zero false) w) :: chunkSteps name next rest w'

/-- The steps of a server with one connection, which gets some chunks. -/
def aloneSteps (registry : Registry W I) (limit : Nat) (name : String) (chunks : List (List UInt8)) (w : W) :
    List (ServeStep W) :=
  .accept name :: chunkSteps name (.start registry name limit) chunks w

theorem chunkSteps_cons (name : String) (l : Live W I) (bytes : List UInt8) (rest : List (List UInt8)) (w : W) :
    chunkSteps name l (bytes :: rest) w = .turn name (.handle bytes (.zero false) w) ::
      chunkSteps name (l.step (.read bytes) w).2.1 rest (l.step (.read bytes) w).2.2 :=
  rfl

theorem ended_step {l : Live W I} (same : l.ended = l.connection.finished) (bytes : List UInt8) (w : W) :
    (l.step (.read bytes) w).2.1.ended = (l.step (.read bytes) w).2.1.connection.finished := by
  rw [Live.step]
  split
  · exact same
  · rfl

/-- A chunk for the only connection of a server. -/
theorem step_alone {s : Server W I} {name : String} {l : Live W I} (live : s.live = [(name, l)])
    (bytes : List UInt8) (w : W) :
    (s.step (.turn name (.handle bytes (.zero false) w))).live = [(name, (l.step (.read bytes) w).2.1)] ∧
      s.readOf? (.turn name (.handle bytes (.zero false) w)) =
        if l.ended then none else some ⟨l, bytes, w⟩ := by
  have found : s.live.lookup name = some l := by rw [live, List.lookup_cons, BEq.rfl]
  rw [Server.step, Server.takeTurn, Server.handle, Server.readOf?, found, Live.step]
  dsimp only
  cases l.ended with
  | true => exact ⟨live, rfl⟩
  | false =>
      refine ⟨?_, rfl⟩
      rw [if_neg Bool.false_ne_true, if_neg Bool.false_ne_true, Server.setLive, live, List.map_singleton,
        BEq.rfl, if_pos rfl]

theorem selected_chunkSteps {router : Router W I} {limit : Nat} {world w : W} {earlier : List (List UInt8)}
    (later : List (List UInt8)) {s : Server W I} {name : String} {l : Live W I} (live : s.live = [(name, l)])
    (same : l.ended = l.connection.finished) {replies : List (List Payload)} {counted : List String}
    (h : Conversed router limit world earlier { connection := l.connection, world := w, replies, counted }) :
    router.selections ((conversation router limit world earlier).map Exchange.request) world ++
        (s.readsOf (chunkSteps name l later w)).flatMap ChunkRead.selected =
      router.selections ((conversation router limit world (earlier ++ later)).map Exchange.request) world := by
  induction later generalizing earlier w s l replies counted with
  | nil => rw [chunkSteps, Server.readsOf, List.flatMap_nil, List.append_nil, List.append_nil]
  | cons bytes rest ih =>
      obtain ⟨⟨replies', counted', next⟩, chosen⟩ := h.read same bytes
      obtain ⟨after, read⟩ := step_alone live bytes w
      rw [List.append_cons, chunkSteps_cons, Server.readsOf, ← ih after (ended_step same bytes w) next, chosen,
        read, List.flatMap_append, List.append_assoc]
      cases l.ended with
      | true => rfl
      | false =>
          rw [if_neg Bool.false_ne_true, if_neg Bool.false_ne_true, Option.toList_some, List.flatMap_singleton]

/-- What is chosen on a connection alone is what the requests of its stream choose. -/
theorem selectedIn_aloneSteps (registry : Registry W I) (serviceName : String) (limit : Nat) (name : String)
    (chunks : List (List UInt8)) (w : W) :
    selectedIn registry serviceName limit (aloneSteps registry limit name chunks w) =
      Router.selections { registry, connection := name }
        ((conversation { registry, connection := name } limit w chunks).map Exchange.request) w := by
  have start := Conversed.start { registry, connection := name } limit w
  have accepted : ((served registry serviceName limit []).accept name).live =
    [(name, .start registry name limit)] := rfl
  have whole := selected_chunkSteps chunks accepted rfl start
  exact whole

/-- The chunks that are handled are those of the steps. -/
theorem exists_of_mem_readsOf {s : Server W I} {steps : List (ServeStep W)} {c : ChunkRead W I}
    (member : c ∈ s.readsOf steps) :
    ∃ name seconds, .turn name (.handle c.bytes seconds c.world) ∈ steps := by
  induction steps generalizing s with
  | nil => cases member
  | cons x rest ih =>
      rw [Server.readsOf, List.mem_append, Option.mem_toList] at member
      obtain now | later := member
      · obtain ⟨name, seconds, rfl, -, -⟩ := Server.readOf?_eq_some now
        exact ⟨name, seconds, List.mem_cons_self⟩
      · obtain ⟨name, seconds, there⟩ := ih later
        exact ⟨name, seconds, List.mem_cons_of_mem x there⟩

theorem mem_of_mem_chunkSteps {name other : String} {l : Live W I} {chunks : List (List UInt8)} {w w' : W}
    {bytes : List UInt8} {seconds : Binary64}
    (member : .turn other (.handle bytes seconds w') ∈ chunkSteps name l chunks w) : bytes ∈ chunks := by
  induction chunks generalizing l w with
  | nil => cases member
  | cons chunk rest ih =>
      rw [chunkSteps_cons, List.mem_cons] at member
      obtain here | later := member
      · cases here
        exact List.mem_cons_self
      · exact List.mem_cons_of_mem chunk (ih later)

/-- What is chosen on a connection alone does not depend on how its stream is cut when every line fits. -/
theorem selectedIn_congr (registry : Registry W I) (serviceName : String) {limit : Nat} (name : String)
    {chunks others : List (List UInt8)} (w : W) (fits : Fits limit chunks.flatten)
    (same : others.flatten = chunks.flatten) :
    selectedIn registry serviceName limit (aloneSteps registry limit name others w) =
      selectedIn registry serviceName limit (aloneSteps registry limit name chunks w) := by
  have fits' : Fits limit others.flatten := same ▸ fits
  rw [selectedIn_aloneSteps, selectedIn_aloneSteps, conversation, conversation, requests_of_fits fits,
    requests_of_fits fits', same]

/-- A connection alone handles no chunks but those it gets. -/
theorem bytes_of_mem_readsIn {registry : Registry W I} {serviceName : String} {limit : Nat} {name : String}
    {chunks : List (List UInt8)} {w : W} {c : ChunkRead W I}
    (member : c ∈ readsIn registry serviceName limit (aloneSteps registry limit name chunks w)) :
    c.bytes ∈ chunks := by
  obtain ⟨other, seconds, there⟩ := exists_of_mem_readsOf member
  rw [aloneSteps, List.mem_cons] at there
  obtain accepts | there := there
  · cases accepts
  · exact mem_of_mem_chunkSteps there

/-- What the counters of chosen protocols show, for every run of a server and every way in which the bytes of its
connections come. -/
structure SelectionLaw (registry : Registry W I) (serviceName : String) (limit : Nat) : Prop where
  /-- The counters show what was counted, under the keys of the protocols. -/
  counters : ∀ steps : List (ServeStep W), Tallies (served registry serviceName limit steps).metrics.selections
    (countedIn registry serviceName limit steps)
  /-- For a chunk the protocol that was chosen last in it is counted, or none. -/
  last : ∀ steps, ∀ c ∈ readsIn registry serviceName limit steps, ∀ key, c.counted? = some key →
    c.selected.getLast? = some key
  /-- No choice is counted twice, and nothing but choices is counted. -/
  fewer : ∀ steps, (countedIn registry serviceName limit steps).Sublist (selectedIn registry serviceName limit steps)
  /-- Every protocol is counted as often as it was chosen exactly when no chunk chooses more than one, or chooses one
  and leaves it, or the one that was active before. -/
  exact_iff : ∀ steps,
    (∀ key, (countedIn registry serviceName limit steps).count key =
      (selectedIn registry serviceName limit steps).count key) ↔
      ∀ c ∈ readsIn registry serviceName limit steps, c.Plain
  /-- So a client that sends one line after the other is counted right. -/
  oneByOne : ∀ steps, ∀ c ∈ readsIn registry serviceName limit steps, (splitLines c.bytes).1.length ≤ 1 → c.Plain
  /-- So is one that leaves no protocol. -/
  kept : ∀ steps, ∀ c ∈ readsIn registry serviceName limit steps,
    (∀ request ∈ c.requests, Router.leaves request = false) → c.Plain
  /-- What is chosen depends on the stream of the connection. -/
  stream : ∀ name chunks w,
    selectedIn registry serviceName limit (aloneSteps registry limit name chunks w) =
      Router.selections { registry, connection := name }
        ((conversation { registry, connection := name } limit w chunks).map Exchange.request) w
  /-- When every line fits, it does not depend on how the stream is cut, but what is counted does: a client whose
  chunks end one line each is counted right, and one that sends the same stream in other chunks not more often. -/
  chunking : ∀ name chunks others w, Fits limit chunks.flatten → others.flatten = chunks.flatten →
    selectedIn registry serviceName limit (aloneSteps registry limit name others w) =
        selectedIn registry serviceName limit (aloneSteps registry limit name chunks w) ∧
      ((∀ chunk ∈ others, (splitLines chunk).1.length ≤ 1) →
        (countedIn registry serviceName limit (aloneSteps registry limit name chunks w)).Sublist
          (countedIn registry serviceName limit (aloneSteps registry limit name others w)))

theorem selection_law (steady : SteadyKeys W I) (registry : Registry W I) (serviceName : String) (limit : Nat) :
    SelectionLaw registry serviceName limit where
  counters _ := tallies_served
  last _ c member key counted := by
    rw [counted?_of_mem_readsIn member] at counted
    exact Router.getLast?_of_noticed steady (ready_of_mem_readsIn member).1.settled counted
  fewer _ := countedIn_sublist steady
  exact_iff steps := by
    constructor
    · exact forall_plain_of_count steady
    · intro plain key
      rw [countedIn_eq_selectedIn steady plain]
  oneByOne _ c member short := c.plain_of_line steady (ready_of_mem_readsIn member).1 short
  kept _ c member kept :=
    Router.selectPlainly_of_kept steady (ready_of_mem_readsIn member).1.settled kept c.world
  stream := selectedIn_aloneSteps registry serviceName limit
  chunking name chunks others w fits same := by
    have alike := selectedIn_congr registry serviceName name w fits same
    refine ⟨alike, fun short => ?_⟩
    have plain : ∀ c ∈ readsIn registry serviceName limit (aloneSteps registry limit name others w), c.Plain := by
      intro c member
      have given := short c.bytes (bytes_of_mem_readsIn member)
      exact c.plain_of_line steady (ready_of_mem_readsIn member).1 given
    rw [countedIn_eq_selectedIn steady plain, alike]
    exact countedIn_sublist steady

section pipelined

/-- The jokes are chosen, and a second chunk leaves them and chooses the switches. -/
def changeOver : List (ServeStep (Hardware SimulatedRadio SimulatedDongle)) :=
  aloneSteps ({} : DeviceConfig).registry 65536 "a"
    ["[\"\",\"KnockKnock\"]\n".toUTF8.toList, "[\"\",\"Reset\"]\n[\"\",\"RfSwitch\"]\n".toUTF8.toList]
    (.simulated {})

/-- Both choices are counted. -/
theorem changeOver_counted :
    SteadyKeys (Hardware SimulatedRadio SimulatedDongle) Device ∧
      SelectionLaw (({} : DeviceConfig).registry (R := SimulatedRadio) (D := SimulatedDongle)) "switchboard" 65536 ∧
      (served ({} : DeviceConfig).registry "switchboard" 65536 changeOver).metrics.selections =
        [(knockKnockKey, 1), (rfSwitchKey, 1)] := by
  refine ⟨Device.steadyKeys _ _, selection_law (Device.steadyKeys _ _) _ _ _, ?_⟩
  decide +kernel

/-- One client sends three lines in one chunk. -/
def pipelined : List (ServeStep Unit) :=
  aloneSteps jokers 65536 "a" [roundTrip] ()

/-- Another one sends the same three lines one after the other. -/
def paced : List (ServeStep Unit) :=
  aloneSteps jokers 65536 "a"
    ["[\"\",\"Turnip\"]\n".toUTF8.toList, "[\"\",\"Reset\"]\n".toUTF8.toList,
      "[\"\",\"Turnip\"]\n".toUTF8.toList] ()

theorem choice_uncounted :
    selectedIn jokers "switchboard" 65536 pipelined = [knockKnockKey, knockKnockKey] ∧
      (served jokers "switchboard" 65536 pipelined).metrics.selections = [(knockKnockKey, 1)] ∧
      (served jokers "switchboard" 65536 paced).metrics.selections = [(knockKnockKey, 2)] := by
  decide +kernel

end pipelined

end Switchboard
