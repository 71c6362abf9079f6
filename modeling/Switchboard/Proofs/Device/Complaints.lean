import Switchboard.Proofs.Device.Jokes

/-!
What the jokes keep of what they were told. While they wait to be asked, they complain about a line that
they do not know and say again what was said before, so that the complaints of several such lines pile up.
Any other line leaves nothing behind but the state and the number of the joke.
-/

namespace Switchboard

/-- What is said after lines that are not known, one after the other. -/
def complained (said : String) (unknown : List String) : String :=
  unknown.foldl (fun said action => "Unknown action: " ++ action ++ ". " ++ said) said

theorem complained_concat (said : String) (unknown : List String) (action : String) :
    complained said (unknown ++ [action]) =
      "Unknown action: " ++ action ++ ". " ++ complained said unknown := by
  rw [complained, List.foldl_append]
  rfl

/-- A complaint adds the line and eighteen characters. -/
theorem length_complained_concat (said : String) (unknown : List String) (action : String) :
    (complained said (unknown ++ [action])).length =
      (complained said unknown).length + (action.length + 18) := by
  have around : "Unknown action: ".length = 16 ∧ ". ".length = 2 := by decide
  rw [complained_concat, String.length_append, String.length_append, String.length_append, around.1,
    around.2]
  omega

theorem length_complained_le {unknown : List String} {n : Nat} (said : String)
    (each : ∀ action ∈ unknown, action.length ≤ n) :
    (complained said unknown).length ≤ said.length + unknown.length * (n + 18) := by
  induction unknown using List.reverseRecOn with
  | nil => exact Nat.le_add_right _ _
  | append_singleton unknown action ih =>
      have earlier := ih fun other member => each other (List.mem_append_left _ member)
      have last := each action List.mem_concat_self
      rw [length_complained_concat, List.length_append, List.length_singleton, Nat.add_mul]
      omega

theorem length_complained_replicate (said action : String) (n : Nat) :
    (complained said (List.replicate n action)).length = said.length + n * (action.length + 18) := by
  induction n with
  | zero => rw [Nat.zero_mul]; rfl
  | succ n ih =>
      rw [List.replicate_succ', length_complained_concat, ih, Nat.add_mul]
      omega

namespace KnockKnock

/-- Holds of a line that the waiting jokes do not know. -/
def Unknown (k : KnockKnock) (action : String) : Prop :=
  k.state = .waiting ∧ action ≠ Action.ping ∧ action ≠ Action.reset ∧ action ≠ "Start"

instance (k : KnockKnock) (action : String) : Decidable (k.Unknown action) :=
  inferInstanceAs (Decidable (_ ∧ _ ∧ _ ∧ _))

variable {k other : KnockKnock} {action : String} {p q : Payload}

theorem process_ping (pings : p.effectiveAction = Action.ping) : k.process p = (k.say Action.ping, k) := by
  rw [process, if_pos (beq_iff_eq.mpr pings)]

theorem process_unknown (unknown : k.Unknown p.effectiveAction) :
    k.process p =
      k.respond p.effectiveAction ("Unknown action: " ++ p.effectiveAction ++ ". " ++ k.prompt) := by
  obtain ⟨state, noPing, noReset, noStart⟩ := unknown
  rw [process_of_line noPing noReset, reply, state]
  exact if_neg (mt beq_iff_eq.mp noStart)

/-- What was said before makes a difference only to a ping and to a line that is not known. -/
theorem process_congr (state : k.state = other.state) (joke : k.joke = other.joke)
    (same : p.effectiveAction = q.effectiveAction) (noPing : p.effectiveAction ≠ Action.ping)
    (known : ¬k.Unknown p.effectiveAction) : k.process p = other.process q := by
  obtain ⟨here, number, said⟩ := k
  obtain ⟨there, _, said'⟩ := other
  obtain rfl : here = there := state
  cases joke
  by_cases resets : p.effectiveAction = Action.reset
  · rw [process, process, ← same, resets]
    rfl
  rw [process_of_line noPing resets, process_of_line (same ▸ noPing) (same ▸ resets), ← same]
  cases here with
  | waiting =>
      have starts : p.effectiveAction = "Start" := by
        by_contra other
        exact known ⟨rfl, noPing, resets, other⟩
      rw [starts]
      rfl
  | knocked | gaveClue | askedAgain => rfl

theorem length_clue_le (k : KnockKnock) : k.clue.length ≤ 15 := by
  have each : ∀ joke ∈ ("", "") :: jokes, joke.1.length ≤ 15 := by decide
  exact each _ k.joke_mem

theorem length_punchline_le (k : KnockKnock) : k.punchline.length ≤ 35 := by
  have each : ∀ joke ∈ ("", "") :: jokes, joke.2.length ≤ 35 := by decide
  exact each _ k.joke_mem

theorem length_correction (expected : String) : (correction expected).length = expected.length + 51 := by
  have around : "You're supposed to say \"".length + "\"! Try again. Knock! Knock!".length = 51 := by
    decide +kernel
  have length (front back : String) :
      (front ++ expected ++ back).length = expected.length + (front.length + back.length) := by
    rw [String.length_append, String.length_append]
    omega
  exact (length _ _).trans (congrArg (expected.length + ·) around)

/-- Whatever is said to a line that is known is short. -/
theorem Line.length_le {next : KnockKnock} (line : Line k action next)
    (known : ¬(k.state = .waiting ∧ action ≠ "Start")) : next.prompt.length ≤ 71 := by
  cases line with
  | unknown state other => exact absurd ⟨state, other⟩ known
  | started | another => exact show "Knock! Knock!".length ≤ 71 by decide
  | declined => exact show goodbye.length ≤ 71 by decide
  | unsure => exact show "Want another? (y/n)".length ≤ 71 by decide
  | puzzled =>
      dsimp only
      rw [length_correction]
      decide
  | asked => exact Nat.le_trans k.length_clue_le (by decide)
  | missed =>
      have short := k.length_clue_le
      have question : " who?".length = 5 := by decide
      dsimp only
      rw [length_correction, clueQuestion, String.length_append, question]
      omega
  | solved =>
      have short := k.length_punchline_le
      have question : " Want another? (y/n)".length = 20 := by decide
      dsimp only
      rw [String.length_append, question]
      omega

theorem length_process_le (noPing : p.effectiveAction ≠ Action.ping)
    (known : ¬k.Unknown p.effectiveAction) : (k.process p).2.prompt.length ≤ 71 := by
  by_cases resets : p.effectiveAction = Action.reset
  · have afresh : (k.process p).2 = {} := by
      rw [process, resets]
      rfl
    rw [afresh]
    decide
  · rw [process_of_line noPing resets]
    refine (k.line_reply p.effectiveAction).length_le ?_
    rintro ⟨state, other⟩
    exact known ⟨state, noPing, resets, other⟩

end KnockKnock

namespace JokeExchange

/-- The line, when it is one that is not known. -/
def unknown? (e : JokeExchange) : Option String :=
  if e.before.Unknown e.action then some e.action else none

/-- Tells that what is said is neither repeated nor put behind a complaint. -/
def isPlain (e : JokeExchange) : Bool :=
  !e.pings && e.unknown?.isNone

variable {e : JokeExchange}

theorem isPlain_iff : e.isPlain = true ↔ e.action ≠ Action.ping ∧ ¬e.before.Unknown e.action := by
  rw [isPlain, unknown?, pings, Bool.and_eq_true, Bool.not_eq_true', beq_eq_false_iff_ne]
  by_cases unknown : e.before.Unknown e.action <;> simp [unknown]

theorem response_reply (e : JokeExchange) : e.reply.response = some e.next.prompt :=
  e.before.response_process e.request

end JokeExchange

/-- What was said last that was neither repeated nor put behind a complaint. -/
def plainlySaid (log : List JokeExchange) : String :=
  ((log.filter JokeExchange.isPlain).getLast?.map fun e => e.next.prompt).getD "Want to hear a joke?"

/-- The lines that were not known since then. -/
def piledUp (log : List JokeExchange) : List String :=
  (sinceLast JokeExchange.isPlain log).filterMap JokeExchange.unknown?

/-- The number of characters of the longest line. -/
def longestLine (log : List JokeExchange) : Nat :=
  (log.map fun e => e.action.length).foldr max 0

section logs

variable {log : List JokeExchange} {e : JokeExchange}

theorem plainlySaid_concat :
    plainlySaid (log ++ [e]) = if e.isPlain then e.next.prompt else plainlySaid log := by
  rw [plainlySaid, List.filter_append]
  cases plain : e.isPlain with
  | true => simp [plain]
  | false => simp [plain, plainlySaid]

theorem piledUp_concat :
    piledUp (log ++ [e]) = if e.isPlain then [] else piledUp log ++ e.unknown?.toList := by
  rw [piledUp, sinceLast_concat]
  cases plain : e.isPlain with
  | true => rfl
  | false =>
      rw [if_neg (by decide), if_neg (by decide), List.filterMap_append, piledUp]
      cases unknown : e.unknown? <;> simp [unknown]

theorem length_le_longestLine (member : e ∈ log) : e.action.length ≤ longestLine log := by
  induction log with
  | nil => cases member
  | cons first rest ih =>
      rw [longestLine, List.map_cons, List.foldr_cons]
      rcases List.mem_cons.mp member with rfl | later
      · exact Nat.le_max_left _ _
      · exact Nat.le_trans (ih later) (Nat.le_max_right _ _)

theorem longestLine_le {n : Nat} (each : ∀ e ∈ log, e.action.length ≤ n) : longestLine log ≤ n := by
  induction log with
  | nil => exact Nat.zero_le n
  | cons first rest ih =>
      obtain ⟨short, later⟩ := List.forall_mem_cons.mp each
      exact Nat.max_le.mpr ⟨short, ih later⟩

theorem length_le_of_mem_piledUp {action : String} (member : action ∈ piledUp log) :
    action.length ≤ longestLine log := by
  obtain ⟨e, inside, unknown⟩ := List.mem_filterMap.mp member
  rw [JokeExchange.unknown?] at unknown
  split at unknown
  · cases unknown
    exact length_le_longestLine ((List.rtakeWhile_suffix _ _).subset inside)
  · cases unknown

end logs

/-- What was said last, if only again. -/
def lastHeard (log : List JokeExchange) : String :=
  (log.getLast?.map fun e => e.next.prompt).getD "Want to hear a joke?"

/-- An exchange that keeps no more of the lines before it than the complaints about those still pending. -/
structure JokeExchange.Forgetful (earlier : List JokeExchange) (e : JokeExchange) : Prop where
  /-- Unless it is a ping or not known, a line is answered by the state and the number of the joke alone. -/
  determined : e.isPlain = true → ∀ (k : KnockKnock) (p : Payload), k.state = e.before.state →
    k.joke = e.before.joke → p.effectiveAction = e.action → k.process p = (e.reply, e.next)
  /-- A line that is not known is answered by what was said last, with a complaint in front. -/
  unknown : ∀ action, e.unknown? = some action →
    e.reply.response = some ("Unknown action: " ++ action ++ ". " ++ lastHeard earlier)
  said : e.reply.response =
    some (complained (plainlySaid (earlier ++ [e])) (piledUp (earlier ++ [e])))
  short : (plainlySaid (earlier ++ [e])).length ≤ 71
  length_le : ∀ text, e.reply.response = some text →
    text.length ≤ 71 + (piledUp (earlier ++ [e])).length * (longestLine (earlier ++ [e]) + 18)

/-- What is left of a run, and what each exchange of it keeps. -/
structure JokeRun.Remembers (r : JokeRun) : Prop where
  heard : r.protocol.prompt = lastHeard r.log
  prompt : r.protocol.prompt = complained (plainlySaid r.log) (piledUp r.log)
  short : (plainlySaid r.log).length ≤ 71
  forgetful : ∀ (i : Nat) e, r.log[i]? = some e → e.Forgetful (r.log.take i)

namespace JokeRun

variable {r : JokeRun}

/-- Each request leaves what was said plainly and the complaints since then, and nothing else. -/
theorem Remembers.prompt_ask (h : r.Remembers) (p : Payload) :
    (r.ask p).protocol.prompt = complained (plainlySaid (r.ask p).log) (piledUp (r.ask p).log) ∧
      (plainlySaid (r.ask p).log).length ≤ 71 := by
  have log : (r.ask p).log = r.log ++ [⟨r.protocol, p⟩] := rfl
  have next : (r.ask p).protocol = (r.protocol.process p).2 := rfl
  rw [log, plainlySaid_concat, piledUp_concat]
  by_cases plain : JokeExchange.isPlain ⟨r.protocol, p⟩ = true
  · rw [if_pos plain, if_pos plain]
    obtain ⟨noPing, known⟩ := JokeExchange.isPlain_iff.mp plain
    exact ⟨rfl, KnockKnock.length_process_le noPing known⟩
  rw [if_neg plain, if_neg plain]
  refine ⟨?_, h.short⟩
  by_cases unknown : r.protocol.Unknown p.effectiveAction
  · have line : JokeExchange.unknown? ⟨r.protocol, p⟩ = some p.effectiveAction := if_pos unknown
    rw [line, Option.toList_some, complained_concat, ← h.prompt, next, KnockKnock.process_unknown unknown]
    rfl
  · have line : JokeExchange.unknown? ⟨r.protocol, p⟩ = none := if_neg unknown
    have pings : p.effectiveAction = Action.ping := by
      by_contra other
      exact plain (JokeExchange.isPlain_iff.mpr ⟨other, unknown⟩)
    rw [line, Option.toList_none, List.append_nil, ← h.prompt, next, KnockKnock.process_ping pings]

theorem Remembers.forgetful_ask (h : r.Remembers) (p : Payload) :
    JokeExchange.Forgetful r.log ⟨r.protocol, p⟩ := by
  obtain ⟨prompt, short⟩ := h.prompt_ask p
  have response := JokeExchange.response_reply ⟨r.protocol, p⟩
  refine ⟨?_, ?_, ?_, short, ?_⟩
  · intro plain k q state joke same
    obtain ⟨noPing, known⟩ := JokeExchange.isPlain_iff.mp plain
    exact (KnockKnock.process_congr state.symm joke.symm same.symm noPing known).symm
  · intro action line
    rw [JokeExchange.unknown?] at line
    split at line
    · next unknown =>
        cases line
        rw [response, ← h.heard]
        exact congrArg (fun result => some result.2.prompt) (KnockKnock.process_unknown unknown)
    · cases line
  · rw [response]
    exact congrArg some prompt
  · intro text told
    rw [response] at told
    cases told
    change (r.ask p).protocol.prompt.length ≤ _
    rw [prompt]
    exact Nat.le_trans (length_complained_le _ fun _ => length_le_of_mem_piledUp)
      (Nat.add_le_add_right short _)

theorem remembers_after (requests : List Payload) : (after requests).Remembers := by
  induction requests using List.reverseRecOn with
  | nil => exact ⟨rfl, rfl, by decide, nofun⟩
  | append_singleton requests p ih =>
      obtain ⟨prompt, short⟩ := ih.prompt_ask p
      rw [after_concat]
      refine ⟨?_, prompt, short, follows_concat ih.forgetful (ih.forgetful_ask p)⟩
      change _ = lastHeard ((after requests).log ++ [⟨(after requests).protocol, p⟩])
      rw [lastHeard, List.getLast?_concat]
      rfl

theorem requests_after (requests : List Payload) :
    (after requests).log.map JokeExchange.request = requests := by
  induction requests using List.reverseRecOn with
  | nil => rfl
  | append_singleton requests p ih =>
      have log : ((after requests).ask p).log = (after requests).log ++ [⟨(after requests).protocol, p⟩] := rfl
      rw [after_concat, log, List.map_append, ih]
      rfl

/-- A line that is not known, sent over and over again. -/
theorem after_replicate {p : Payload} (unknown : ({} : KnockKnock).Unknown p.effectiveAction) (n : Nat) :
    (after (List.replicate n p)).protocol =
      { prompt := complained "Want to hear a joke?" (List.replicate n p.effectiveAction) } := by
  induction n with
  | zero => rfl
  | succ n ih =>
      rw [List.replicate_succ', after_concat, List.replicate_succ', complained_concat]
      change ((after (List.replicate n p)).protocol.process p).2 = _
      rw [ih, KnockKnock.process_unknown ⟨rfl, unknown.2⟩]
      rfl

end JokeRun

/-- What a run keeps of its lines. -/
structure ComplaintsLaw (r : JokeRun) : Prop where
  forgetful : ∀ (i : Nat) e, r.log[i]? = some e → e.Forgetful (r.log.take i)
  /-- While no more than one complaint is pending, no reply is much longer than the longest line so far. -/
  bounded : ∀ (i : Nat) e, r.log[i]? = some e → (piledUp (r.log.take i ++ [e])).length ≤ 1 →
    ∀ said, e.reply.response = some said → said.length ≤ longestLine (r.log.take i ++ [e]) + 89

theorem complaints_law (requests : List Payload) : ComplaintsLaw (JokeRun.after requests) := by
  have remembers := JokeRun.remembers_after requests
  refine ⟨remembers.forgetful, ?_⟩
  intro i e found few said told
  have length := (remembers.forgetful i e found).length_le said told
  have most := Nat.mul_le_mul_right (longestLine ((JokeRun.after requests).log.take i ++ [e]) + 18) few
  omega

/-- The same unknown line is answered differently the second time, and no bound holds for all runs. -/
theorem complaints_pile_up :
    ((JokeRun.after [.request "x", .request "x"]).log.map fun e => e.reply.response) =
        [some "Unknown action: x. Want to hear a joke?",
          some "Unknown action: x. Unknown action: x. Want to hear a joke?"] ∧
      ¬∃ bound, ∀ requests, ∀ e ∈ (JokeRun.after requests).log, ∀ said, e.reply.response = some said →
        said.length ≤ longestLine (JokeRun.after requests).log + bound := by
  refine ⟨by decide +kernel, ?_⟩
  rintro ⟨bound, holds⟩
  let before := JokeRun.after (List.replicate bound (Payload.request "x"))
  let last : JokeExchange := ⟨before.protocol, .request "x"⟩
  have run : JokeRun.after (List.replicate (bound + 1) (Payload.request "x")) = before.ask (.request "x") := by
    rw [List.replicate_succ', JokeRun.after_concat]
  have longest : longestLine (before.log ++ [last]) ≤ 1 := by
    refine longestLine_le fun e member => ?_
    have asked := List.mem_map_of_mem (f := JokeExchange.request) member
    change _ ∈ ((before.ask (.request "x")).log.map JokeExchange.request) at asked
    rw [← run, JokeRun.requests_after] at asked
    rw [JokeExchange.action, List.eq_of_mem_replicate asked]
    decide
  have said : last.next = { prompt := complained "Want to hear a joke?" (List.replicate (bound + 1) "x") } := by
    refine Eq.trans (congrArg JokeRun.protocol run).symm ?_
    exact JokeRun.after_replicate (p := .request "x") (by decide) (bound + 1)
  have length := holds (List.replicate (bound + 1) (.request "x")) last (run ▸ List.mem_concat_self) _
    last.response_reply
  have opening : "Want to hear a joke?".length = 20 := by decide
  have line : "x".length = 1 := by decide
  rw [run, said] at length
  dsimp only at length
  rw [length_complained_replicate, opening, line] at length
  change _ ≤ longestLine (before.log ++ [last]) + bound at length
  omega

end Switchboard
