import Mathlib.Data.List.Induction
import Switchboard.Proofs.Router.Conversation

/-!
What comes to a connection: bytes, and in between changes of the world. When every line fits, all that
matters is which lines end before which change: the connection answers them one by one until it says
goodbye. Lines that a router answers without a trace can be put in or left out.
-/

namespace Switchboard

inductive Incoming (W : Type)
  | bytes (chunk : List UInt8)
  | change (f : W → W)

def Incoming.chunk {W : Type} : Incoming W → List UInt8
  | bytes chunk => chunk
  | change _ => []

/-- What happens to a connection: a line ends, or the world changes. -/
inductive Occurrence (W : Type)
  | line (bytes : List UInt8)
  | change (f : W → W)

/-- What happens when the bytes of an unfinished line are there at first. -/
def occurrences {W : Type} (tail : List UInt8) : List (Incoming W) → List (Occurrence W)
  | [] => []
  | .bytes chunk :: rest =>
    let (lines, tail) := continueCut ([], tail) (splitLines chunk)
    lines.map .line ++ occurrences tail rest
  | .change f :: rest => .change f :: occurrences tail rest

/-- Each line with its mark. -/
def lineMarks {W : Type} (marked : List (Bool × Occurrence W)) : List Bool :=
  marked.filterMap fun entry =>
    match entry.2 with
    | .line _ => some entry.1
    | .change _ => none

/-- A connection with its world and its replies so far. -/
structure Attended (W I : Type) where
  connection : Connection W I
  world : W
  replies : List Payload := []

/-- A router that answers lines; each answer has the mark of its line. -/
structure Dialogue (W I : Type) where
  router : Router W I
  world : W
  finished : Bool := false
  answers : List (Bool × Payload) := []

variable {W I : Type} [Protocol W I]

namespace Attended

/-- The connection when a message has been handled. -/
def answer (a : Attended W I) (p : Payload) : Attended W I :=
  let (reply, connection, world) := a.connection.handle p a.world
  { connection := { connection with finished := connection.finished || reply.isTerminal }
    world
    replies := a.replies ++ [reply] }

/-- The connection when messages have been handled up to the first goodbye. -/
def answerAll (a : Attended W I) (messages : List Payload) : Attended W I :=
  let (replies, connection, world) := a.connection.handleAll messages a.world
  { connection, world, replies := a.replies ++ replies }

theorem answerAll_nil (a : Attended W I) : a.answerAll [] = a := by
  simp [answerAll, Connection.handleAll]

theorem answerAll_cons (a : Attended W I) (p : Payload) (rest : List Payload) :
    a.answerAll (p :: rest) =
      if (a.connection.handle p a.world).1.isTerminal then a.answer p
      else (a.answer p).answerAll rest := by
  simp only [answerAll, answer, Connection.handleAll]
  split
  case isTrue goodbye => simp [goodbye]
  case isFalse more => simp [more]

def take (a : Attended W I) : Incoming W → Attended W I
  | .bytes chunk =>
    let (replies, connection, world) := a.connection.receive chunk a.world
    { connection, world, replies := a.replies ++ replies }
  | .change f => { a with world := f a.world }

def after (a : Attended W I) (incoming : List (Incoming W)) : Attended W I :=
  incoming.foldl take a

end Attended

namespace Dialogue

def turn (d : Dialogue W I) : Bool × Occurrence W → Dialogue W I
  | (mark, .line bytes) =>
    if d.finished then d
    else
      let (reply, router, world) := d.router.process (.ofLine bytes) d.world
      { router, world, finished := reply.isTerminal, answers := d.answers ++ [(mark, reply)] }
  | (_, .change f) => { d with world := f d.world }

def after (d : Dialogue W I) (marked : List (Bool × Occurrence W)) : Dialogue W I :=
  marked.foldl turn d

theorem after_append (d : Dialogue W I) (marked more : List (Bool × Occurrence W)) :
    d.after (marked ++ more) = (d.after marked).after more := by
  rw [after, List.foldl_append]
  rfl

end Dialogue

/-- A connection that has got as far as a dialogue. -/
structure Follows (limit : Nat) (tail : List UInt8) (a : Attended W I) (d : Dialogue W I) : Prop where
  router_eq : a.connection.router = d.router
  world_eq : a.world = d.world
  finished_eq : a.connection.finished = d.finished
  replies_eq : a.replies = d.answers.map Prod.snd
  framer_eq : a.connection.finished = false → a.connection.framer = { limit, tail }

section follows

variable {limit : Nat} {tail : List UInt8}

theorem Fits.append_left {a b : List UInt8} (fits : Fits limit (a ++ b)) : Fits limit a := by
  rw [Fits, splitLines_append, continueCut] at fits
  cases ended : (splitLines b).1 with
  | nil =>
      rw [ended] at fits
      refine ⟨fits.1, ?_⟩
      have whole := fits.2
      rw [List.length_append] at whole
      omega
  | cons line more =>
      rw [ended] at fits
      refine ⟨fun earlier mem => fits.1 _ (List.mem_append_left _ mem), ?_⟩
      have first := fits.1 ((splitLines a).2 ++ line) (List.mem_append_right _ List.mem_cons_self)
      rw [List.length_append] at first
      omega

/-- A chunk that leaves a short tail has its lines answered one after the other. -/
theorem Connection.receive_of_short {c : Connection W I} {chunk : List UInt8} (w : W)
    (still : c.finished = false) (held : c.framer = { limit, tail })
    (short : (continueCut ([], tail) (splitLines chunk)).2.length ≤ limit) :
    c.receive chunk w =
      { c with framer := { limit, tail := (continueCut ([], tail) (splitLines chunk)).2 } }.handleAll
        ((continueCut ([], tail) (splitLines chunk)).1.map .ofLine) w := by
  have feed : c.framer.feed chunk =
      ({ limit, lines := (continueCut ([], tail) (splitLines chunk)).1,
         tail := (continueCut ([], tail) (splitLines chunk)).2 }, none) := by
    rw [held, Framer.feed, if_neg Bool.false_ne_true, Framer.accept_eq, Framer.holding,
      if_neg (Nat.not_lt.mpr short)]
  rw [receive, still, if_neg Bool.false_ne_true, feed]
  rfl

theorem Dialogue.after_of_finished {d : Dialogue W I} (finished : d.finished = true)
    {lines : List (List UInt8)} {marked : List (Bool × Occurrence W)}
    (same : marked.map Prod.snd = lines.map .line) : d.after marked = d := by
  induction marked generalizing lines with
  | nil => rfl
  | cons entry rest ih =>
      obtain ⟨mark, occurrence⟩ := entry
      cases lines with
      | nil => cases same
      | cons line more =>
          obtain ⟨rfl, later⟩ := List.cons.inj same
          have silent : d.turn (mark, .line line) = d := if_pos finished
          rw [after, List.foldl_cons, silent]
          exact ih later

theorem Follows.answer {a : Attended W I} {d : Dialogue W I} (follows : Follows limit tail a d)
    (still : a.connection.finished = false) (line : List UInt8) (mark : Bool) :
    Follows limit tail (a.answer (.ofLine line)) (d.turn (mark, .line line)) := by
  have open' : ¬d.finished = true := by
    rw [← follows.finished_eq, still]
    exact Bool.false_ne_true
  rw [Dialogue.turn, if_neg open', ← follows.router_eq, ← follows.world_eq]
  refine ⟨rfl, rfl, ?_, ?_, ?_⟩
  · simp only [Attended.answer, Connection.handle, still, Bool.false_or]
  · rw [Attended.answer, List.map_append, ← follows.replies_eq]
    rfl
  · intro _
    exact follows.framer_eq still

/-- Lines that are handled together are answered one after the other, up to the first goodbye. -/
theorem Follows.answerAll {a : Attended W I} {d : Dialogue W I} (follows : Follows limit tail a d)
    (still : a.connection.finished = false) {lines : List (List UInt8)}
    {marked : List (Bool × Occurrence W)} (same : marked.map Prod.snd = lines.map .line) :
    Follows limit tail (a.answerAll (lines.map .ofLine)) (d.after marked) := by
  induction lines generalizing a d marked with
  | nil =>
      obtain rfl : marked = [] := List.map_eq_nil_iff.mp same
      rw [List.map_nil, a.answerAll_nil]
      exact follows
  | cons line more ih =>
      cases marked with
      | nil => cases same
      | cons entry rest =>
          obtain ⟨mark, occurrence⟩ := entry
          obtain ⟨rfl, later⟩ := List.cons.inj same
          have next := follows.answer still line mark
          rw [List.map_cons, a.answerAll_cons, Dialogue.after, List.foldl_cons]
          split
          case isTrue goodbye =>
            have finished : (d.turn (mark, .line line)).finished = true := by
              rw [← next.finished_eq]
              simp [Attended.answer, goodbye]
            rw [← Dialogue.after, Dialogue.after_of_finished finished later]
            exact next
          case isFalse no =>
            have open' : (a.answer (.ofLine line)).connection.finished = false := by
              rw [Bool.not_eq_true] at no
              simp only [Attended.answer, no, Bool.or_false]
              exact still
            exact ih next open' later

theorem snd_continueCut (cut next : List (List UInt8) × List UInt8) :
    (continueCut cut next).2 = (continueCut ([], cut.2) next).2 := by
  rw [continueCut, continueCut]
  cases next.1 <;> rfl

theorem Follows.chunk {a : Attended W I} {d : Dialogue W I} (follows : Follows limit tail a d)
    {chunk : List UInt8} (short : (continueCut ([], tail) (splitLines chunk)).2.length ≤ limit)
    {marked : List (Bool × Occurrence W)}
    (same : marked.map Prod.snd = (continueCut ([], tail) (splitLines chunk)).1.map .line) :
    Follows limit (continueCut ([], tail) (splitLines chunk)).2 (a.take (.bytes chunk))
      (d.after marked) := by
  cases still : a.connection.finished with
  | true =>
      have finished : d.finished = true := by rw [← follows.finished_eq, still]
      have silent : a.take (.bytes chunk) = a := by
        simp [Attended.take, Connection.receive_of_finished still]
      rw [silent, Dialogue.after_of_finished finished same]
      refine ⟨follows.router_eq, follows.world_eq, follows.finished_eq, follows.replies_eq, ?_⟩
      intro impossible
      rw [still] at impossible
      cases impossible
  | false =>
      have received := Connection.receive_of_short a.world still (follows.framer_eq still) short
      have taken : Follows limit (continueCut ([], tail) (splitLines chunk)).2
          { a with
            connection := { a.connection with
              framer := { limit, tail := (continueCut ([], tail) (splitLines chunk)).2 } } } d :=
        ⟨follows.router_eq, follows.world_eq, follows.finished_eq, follows.replies_eq, fun _ => rfl⟩
      rw [Attended.take, received]
      exact taken.answerAll still same

/-- What comes to a connection does to it what happens with it, when the lines fit. -/
theorem Follows.after {a : Attended W I} {d : Dialogue W I} (follows : Follows limit tail a d)
    (earlier : List UInt8) (held : tail = (splitLines earlier).2) {incoming : List (Incoming W)}
    (fits : Fits limit (earlier ++ incoming.flatMap Incoming.chunk))
    {marked : List (Bool × Occurrence W)} (same : marked.map Prod.snd = occurrences tail incoming) :
    ∃ tail, Follows limit tail (a.after incoming) (d.after marked) := by
  induction incoming generalizing a d tail earlier marked with
  | nil =>
      obtain rfl : marked = [] := List.map_eq_nil_iff.mp same
      exact ⟨tail, follows⟩
  | cons first rest ih =>
      cases first with
      | bytes chunk =>
          obtain ⟨now, later, rfl, lines, others⟩ := List.map_eq_append_iff.mp same
          have next : (continueCut ([], tail) (splitLines chunk)).2 =
              (splitLines (earlier ++ chunk)).2 := by
            rw [splitLines_append, snd_continueCut (splitLines earlier), held]
          rw [List.flatMap_cons, ← List.append_assoc] at fits
          have short : (continueCut ([], tail) (splitLines chunk)).2.length ≤ limit := by
            rw [next]
            exact fits.append_left.2
          rw [d.after_append]
          exact ih (follows.chunk short lines) _ next fits others
      | change f =>
          cases marked with
          | nil => cases same
          | cons entry later =>
              obtain ⟨mark, occurrence⟩ := entry
              obtain ⟨rfl, others⟩ := List.cons.inj same
              have changed : Follows limit tail (a.take (.change f)) (d.turn (mark, .change f)) :=
                ⟨follows.router_eq, congrArg f follows.world_eq, follows.finished_eq, follows.replies_eq,
                  follows.framer_eq⟩
              exact ih changed earlier held fits others

end follows

/-- Routers that a ping leaves as they are. -/
structure Unmoved (Q : Router W I → Prop) : Prop where
  ping : ∀ r p (w : W), Q r → p.isPing = true →
    ∃ reply, r.process p w = (reply, r, w) ∧ reply.isTerminal = false
  kept : ∀ r p (w : W), Q r → (r.process p w).1.isTerminal = false → Q (r.process p w).2.1

/-- The answers to lines with these marks: one to each of them in turn, up to the first goodbye. -/
structure AnswersEach (marks : List Bool) (answers : List (Bool × Payload)) (finished : Bool) : Prop where
  asked : answers.map Prod.fst <+: marks
  all : finished = false → answers.map Prod.fst = marks
  stays : finished = false → ∀ answer ∈ answers, answer.2.isTerminal = false
  ends : finished = true → ∃ earlier last, answers = earlier ++ [last] ∧ last.2.isTerminal = true ∧
    ∀ answer ∈ earlier, answer.2.isTerminal = false

theorem lineMarks_concat_line (marked : List (Bool × Occurrence W)) (mark : Bool) (line : List UInt8) :
    lineMarks (marked ++ [(mark, .line line)]) = lineMarks marked ++ [mark] := by
  rw [lineMarks, List.filterMap_append]
  rfl

theorem lineMarks_concat_change (marked : List (Bool × Occurrence W)) (mark : Bool) (f : W → W) :
    lineMarks (marked ++ [(mark, .change f)]) = lineMarks marked := by
  rw [lineMarks, List.filterMap_append]
  exact List.append_nil _

namespace AnswersEach

variable {marks : List Bool} {answers : List (Bool × Payload)}

theorem ignored (each : AnswersEach marks answers true) (mark : Bool) :
    AnswersEach (marks ++ [mark]) answers true :=
  ⟨each.asked.trans (List.prefix_append _ _), fun impossible => (nomatch impossible),
    fun impossible => (nomatch impossible), each.ends⟩

theorem answered (each : AnswersEach marks answers false) (mark : Bool) (reply : Payload) :
    AnswersEach (marks ++ [mark]) (answers ++ [(mark, reply)]) reply.isTerminal := by
  have same : (answers ++ [(mark, reply)]).map Prod.fst = marks ++ [mark] := by
    rw [List.map_append, each.all rfl]
    rfl
  refine ⟨same ▸ List.prefix_rfl, fun _ => same, ?_, ?_⟩
  · intro still answer mem
    rcases List.mem_append.mp mem with earlier | last
    · exact each.stays rfl answer earlier
    · rw [List.mem_singleton.mp last]
      exact still
  · intro goodbye
    exact ⟨answers, (mark, reply), rfl, goodbye, each.stays rfl⟩

end AnswersEach

theorem Dialogue.answersEach_after {d : Dialogue W I} (fresh : d.answers = [])
    (still : d.finished = false) (marked : List (Bool × Occurrence W)) :
    AnswersEach (lineMarks marked) (d.after marked).answers (d.after marked).finished := by
  induction marked using List.reverseRecOn with
  | nil =>
      have start : AnswersEach [] [] false :=
        ⟨List.prefix_rfl, fun _ => rfl, fun _ _ none => (nomatch none), fun impossible => (nomatch impossible)⟩
      rw [after, List.foldl_nil, fresh, still]
      exact start
  | append_singleton marked entry ih =>
      obtain ⟨mark, occurrence⟩ := entry
      rw [d.after_append]
      generalize d.after marked = e at ih ⊢
      change AnswersEach _ (e.turn (mark, occurrence)).answers (e.turn (mark, occurrence)).finished
      cases occurrence with
      | change f =>
          rw [lineMarks_concat_change]
          exact ih
      | line line =>
          rw [lineMarks_concat_line, turn]
          split
          case isTrue finished =>
            rw [finished] at ih ⊢
            exact ih.ignored mark
          case isFalse open' =>
            rw [Bool.not_eq_true] at open'
            rw [open'] at ih
            exact ih.answered mark _

/-- Only lines that read as a ping are put in. -/
def PutsIn (entry : Bool × Occurrence W) : Prop :=
  entry.1 = true → ∃ line, entry.2 = .line line ∧ (Payload.ofLine line).isPing = true

/-- A dialogue and the one without the lines that were put in. -/
structure Agrees (d e : Dialogue W I) : Prop where
  router_eq : d.router = e.router
  world_eq : d.world = e.world
  finished_eq : d.finished = e.finished
  answers_eq : e.answers = d.answers.filter fun answer => !answer.1
  quiet : ∀ answer ∈ d.answers, answer.1 = true → answer.2.isTerminal = false

namespace Agrees

variable {Q : Router W I → Prop} {d e : Dialogue W I}

theorem turn (agrees : Agrees d e) (occurrence : Occurrence W) :
    Agrees (d.turn (false, occurrence)) (e.turn (false, occurrence)) := by
  cases occurrence with
  | change f =>
      exact ⟨agrees.router_eq, congrArg f agrees.world_eq, agrees.finished_eq, agrees.answers_eq,
        agrees.quiet⟩
  | line line =>
      rw [Dialogue.turn, Dialogue.turn, ← agrees.finished_eq]
      split
      case isTrue => exact agrees
      case isFalse =>
        rw [← agrees.router_eq, ← agrees.world_eq]
        refine ⟨rfl, rfl, rfl, ?_, ?_⟩
        · rw [List.filter_append, ← agrees.answers_eq]
          rfl
        · intro answer mem marked
          rcases List.mem_append.mp mem with earlier | last
          · exact agrees.quiet answer earlier marked
          · rw [List.mem_singleton.mp last] at marked
            cases marked

/-- A ping is answered, and nothing else comes of it. -/
theorem ping (agrees : Agrees d e) (unmoved : Unmoved Q) (holds : d.finished = false → Q d.router)
    {line : List UInt8} (ping : (Payload.ofLine line).isPing = true) :
    Agrees (d.turn (true, .line line)) e := by
  rw [Dialogue.turn]
  split
  case isTrue => exact agrees
  case isFalse open' =>
    rw [Bool.not_eq_true] at open'
    obtain ⟨reply, made, still⟩ := unmoved.ping d.router _ d.world (holds open') ping
    simp only [made, still]
    refine ⟨agrees.router_eq, agrees.world_eq, ?_, ?_, ?_⟩
    · rw [← agrees.finished_eq, open']
    · rw [List.filter_append, ← agrees.answers_eq]
      exact (List.append_nil _).symm
    · intro answer mem marked
      rcases List.mem_append.mp mem with earlier | last
      · exact agrees.quiet answer earlier marked
      · rw [List.mem_singleton.mp last]
        exact still

end Agrees

theorem Unmoved.turn {Q : Router W I → Prop} (unmoved : Unmoved Q) {d : Dialogue W I}
    (holds : d.finished = false → Q d.router) (entry : Bool × Occurrence W) :
    (d.turn entry).finished = false → Q (d.turn entry).router := by
  obtain ⟨mark, occurrence⟩ := entry
  cases occurrence with
  | change f => exact holds
  | line line =>
      rw [Dialogue.turn]
      split
      case isTrue => exact holds
      case isFalse open' =>
        rw [Bool.not_eq_true] at open'
        exact unmoved.kept _ _ _ (holds open')

theorem Unmoved.agrees_after {Q : Router W I → Prop} (unmoved : Unmoved Q) {d e : Dialogue W I}
    (holds : d.finished = false → Q d.router) (agrees : Agrees d e)
    {marked : List (Bool × Occurrence W)} (pings : ∀ entry ∈ marked, PutsIn entry) :
    Agrees (d.after marked) (e.after (marked.filter fun entry => !entry.1)) := by
  induction marked generalizing d e with
  | nil => exact agrees
  | cons entry rest ih =>
      have later := fun entry mem => pings entry (List.mem_cons_of_mem _ mem)
      have holds' := unmoved.turn holds entry
      have first := pings entry List.mem_cons_self
      obtain ⟨mark, occurrence⟩ := entry
      cases mark with
      | false => exact ih holds' (agrees.turn occurrence) later
      | true =>
          obtain ⟨line, rfl, ping⟩ := first rfl
          exact ih holds' (agrees.ping unmoved holds ping) later

/-- A connection to which lines were put in, and the same one without them. -/
structure Inert (marked : List (Bool × Occurrence W)) (padded plain : Attended W I) : Prop where
  router_eq : padded.connection.router = plain.connection.router
  world_eq : padded.world = plain.world
  finished_eq : padded.connection.finished = plain.connection.finished
  /-- The lines have an answer each, and without the answers to what was put in they are the same. -/
  answered : ∃ answers : List (Bool × Payload), padded.replies = answers.map Prod.snd ∧
    plain.replies = (answers.filter fun answer => !answer.1).map Prod.snd ∧
    AnswersEach (lineMarks marked) answers padded.connection.finished ∧
    ∀ answer ∈ answers, answer.1 = true → answer.2.isTerminal = false

theorem Unmoved.inert {Q : Router W I → Prop} (unmoved : Unmoved Q) {router : Router W I}
    (holds : Q router) {limit : Nat} {w : W} {padded plain : List (Incoming W)}
    {marked : List (Bool × Occurrence W)} (fits : Fits limit (padded.flatMap Incoming.chunk))
    (fits' : Fits limit (plain.flatMap Incoming.chunk))
    (same : marked.map Prod.snd = occurrences [] padded)
    (same' : (marked.filter fun entry => !entry.1).map Prod.snd = occurrences [] plain)
    (pings : ∀ entry ∈ marked, PutsIn entry) :
    let start : Attended W I := { connection := { router, framer := { limit } }, world := w }
    Inert marked (start.after padded) (start.after plain) := by
  intro start
  let d : Dialogue W I := { router, world := w }
  have begun : Follows limit [] start d := ⟨rfl, rfl, rfl, rfl, fun _ => rfl⟩
  obtain ⟨_, follows⟩ := begun.after [] rfl fits same
  obtain ⟨_, follows'⟩ := begun.after [] rfl fits' same'
  have together : Agrees d d := ⟨rfl, rfl, rfl, rfl, fun _ none => (nomatch none)⟩
  have agrees := unmoved.agrees_after (fun _ => holds) together pings
  have each := Dialogue.answersEach_after (d := d) rfl rfl marked
  refine ⟨?_, ?_, ?_, (d.after marked).answers, follows.replies_eq, ?_, ?_, agrees.quiet⟩
  · exact follows.router_eq.trans (agrees.router_eq.trans follows'.router_eq.symm)
  · exact follows.world_eq.trans (agrees.world_eq.trans follows'.world_eq.symm)
  · exact follows.finished_eq.trans (agrees.finished_eq.trans follows'.finished_eq.symm)
  · rw [follows'.replies_eq, agrees.answers_eq]
  · rw [follows.finished_eq]
    exact each

end Switchboard
