import Switchboard.Proofs.Device.JokeTurns
import Switchboard.Proofs.Device.Pings
import Switchboard.Proofs.Log

/-!
How the jokes are told. From the start, or from a reset, and until a goodbye they are told one after the
other and over again, each punchline to whoever asks about its clue. A wrong line never skips one.
-/

namespace Switchboard

/-- What is said at the end of a joke. -/
def jokeEnding (joke : String × String) : String :=
  joke.2 ++ " Want another? (y/n)"

/-- The question about the clue of a joke. -/
def jokeQuestion (joke : String × String) : String :=
  joke.1 ++ " who?"

/-- The joke that ends with what is said. -/
def endedJoke? (said : String) : Option (String × String) :=
  jokes.find? fun joke => jokeEnding joke == said

/-- A request and the state that it met. -/
structure JokeExchange where
  before : KnockKnock
  request : Payload

namespace JokeExchange

def reply (e : JokeExchange) : Payload :=
  (e.before.process e.request).1

def next (e : JokeExchange) : KnockKnock :=
  (e.before.process e.request).2

def action (e : JokeExchange) : String :=
  e.request.effectiveAction

def pings (e : JokeExchange) : Bool :=
  e.action == Action.ping

def resets (e : JokeExchange) : Bool :=
  e.action == Action.reset

/-- What is said, if it is not just said again to a ping. -/
def said? (e : JokeExchange) : Option String :=
  if e.pings then none else e.reply.response

/-- The joke whose punchline is told. -/
def told? (e : JokeExchange) : Option (String × String) :=
  e.said?.bind endedJoke?

end JokeExchange

/-- What was said last, pings apart. -/
def lastSaid (log : List JokeExchange) : Option String :=
  (log.filterMap JokeExchange.said?).getLast?

/-- The jokes whose punchlines were told, in order. -/
def toldIn (log : List JokeExchange) : List (String × String) :=
  log.filterMap JokeExchange.told?

theorem lastSaid_concat (log : List JokeExchange) (e : JokeExchange) :
    lastSaid (log ++ [e]) = e.said?.or (lastSaid log) := by
  rw [lastSaid, List.filterMap_append, List.getLast?_append]
  cases said : e.said? with
  | none => simp [said, lastSaid]
  | some text => simp [said]

theorem toldIn_concat (log : List JokeExchange) (e : JokeExchange) :
    toldIn (log ++ [e]) = toldIn log ++ e.told?.toList := by
  rw [toldIn, List.filterMap_append]
  cases told : e.told? with
  | none => simp [told, toldIn]
  | some joke => simp [told, toldIn]

section texts

/-- Neither a clue nor the end of a joke. -/
def JokeFree (said : String) : Prop :=
  endedJoke? said = none ∧ ∀ joke ∈ jokes, said ≠ joke.1

/-- Ends with a knock. -/
def Knocks (said : String) : Prop :=
  "Knock! Knock!".toList <:+ said.toList

theorem last_of_knocks {said : String} (knocks : Knocks said) : said.toList.getLast? = some '!' := by
  obtain ⟨front, split⟩ := knocks
  rw [← split, List.getLast?_append]
  rfl

theorem last_append (front said : String) :
    (front ++ said).toList.getLast? = said.toList.getLast?.or front.toList.getLast? := by
  rw [String.toList_append, List.getLast?_append]

theorem last_clue : ∀ joke ∈ jokes, joke.1.toList.getLast? ≠ some '!' := by
  decide

theorem jokeFree_of_first {said : String} {c : Char} (starts : Text.first said = some c)
    (apart : ∀ joke ∈ jokes, Text.first joke.1 ≠ some c ∧ Text.first (jokeEnding joke) ≠ some c) :
    JokeFree said := by
  refine ⟨?_, ?_⟩
  · rw [endedJoke?, List.find?_eq_none]
    intro joke member same
    rw [← beq_iff_eq.mp same] at starts
    exact (apart joke member).2 starts
  · rintro joke member rfl
    exact (apart joke member).1 starts

theorem jokeFree_knock : JokeFree "Knock! Knock!" :=
  jokeFree_of_first (c := 'K') (by decide) (by decide)

theorem jokeFree_correction (expected : String) : JokeFree (KnockKnock.correction expected) :=
  jokeFree_of_first (KnockKnock.first_correction expected) (by decide)

theorem jokeFree_unknown (action rest : String) : JokeFree ("Unknown action: " ++ action ++ rest) :=
  jokeFree_of_first (Text.first_append (first_unknown action) rest) (by decide)

theorem jokeFree_question : JokeFree "Want another? (y/n)" :=
  ⟨by decide, by decide⟩

theorem endedJoke?_clue : ∀ joke ∈ jokes, endedJoke? joke.1 = none := by
  decide

theorem endedJoke?_ending : ∀ joke ∈ jokes, endedJoke? (jokeEnding joke) = some joke := by
  decide

theorem ending_ne_clue : ∀ joke ∈ jokes, ∀ other ∈ jokes, jokeEnding joke ≠ other.1 := by
  decide

/-- Different jokes have different clues. -/
theorem eq_of_clue : ∀ joke ∈ jokes, ∀ other ∈ jokes, joke.1 = other.1 → joke = other := by
  decide

theorem opening_ne_clue : ∀ joke ∈ jokes, "Want to hear a joke?" ≠ joke.1 := by
  decide

theorem ping_ne_question : ∀ joke ∈ jokes, Text.eqIgnoreCase Action.ping (jokeQuestion joke) = false := by
  decide

end texts

namespace KnockKnock

/-- Where the jokes stand when so many punchlines were told. -/
def Stands (k : KnockKnock) (told : Nat) : Prop :=
  match k.state with
  | .waiting => told = 0 ∧ k.joke = 0
  | .knocked => k.joke = told % jokes.length
  | .gaveClue => k.joke = told % jokes.length
  | .askedAgain => 0 < told ∧ k.joke = (told - 1) % jokes.length

/-- What was said last is a clue exactly while it is to be asked about. -/
def Hinting (k : KnockKnock) : Prop :=
  ∀ joke ∈ jokes, k.prompt = joke.1 ↔ k.state = .gaveClue ∧ jokes[k.joke]? = some joke

/-- Nothing but a knock ends as it does. -/
def Knocking (k : KnockKnock) : Prop :=
  k.prompt.toList.getLast? = some '!' → k.state = .knocked

variable {k next : KnockKnock} {action : String} {told : Nat} {joke : String × String}

theorem Stands.index (stands : k.Stands told) : k.joke < jokes.length := by
  have some : 0 < jokes.length := by decide
  rw [Stands] at stands
  split at stands
  · exact Nat.lt_of_le_of_lt (Nat.le_of_eq stands.2) some
  · exact Nat.lt_of_le_of_lt (Nat.le_of_eq stands) (Nat.mod_lt _ some)
  · exact Nat.lt_of_le_of_lt (Nat.le_of_eq stands) (Nat.mod_lt _ some)
  · exact Nat.lt_of_le_of_lt (Nat.le_of_eq stands.2) (Nat.mod_lt _ some)

theorem clue_eq (found : jokes[k.joke]? = some joke) : k.clue = joke.1 := by
  rw [clue, found, Option.getD_some]

theorem punchline_eq (found : jokes[k.joke]? = some joke) : k.punchline = joke.2 := by
  rw [punchline, found, Option.getD_some]

/-- What a line is answered by: a clue, the end of a joke, or something else that is not about a joke. -/
inductive Line.Said (k : KnockKnock) (action : String) (next : KnockKnock) : Prop
  | clue : k.state = .knocked → next.state = .gaveClue → next.joke = k.joke → next.prompt = k.clue →
    Said k action next
  | ending : k.state = .gaveClue → Text.eqIgnoreCase action k.clueQuestion = true →
    next.state = .askedAgain → next.joke = k.joke →
    next.prompt = k.punchline ++ " Want another? (y/n)" → Said k action next
  | aside : ¬(k.state = .gaveClue ∧ Text.eqIgnoreCase action k.clueQuestion = true) →
    next.state ≠ .gaveClue → JokeFree next.prompt → Said k action next

namespace Line

theorem said (line : Line k action next) (polite : next.prompt ≠ goodbye) : Said k action next := by
  have unlike {state : JokeState} (here : k.state = state) (other : state ≠ .gaveClue) :
      ¬(k.state = .gaveClue ∧ Text.eqIgnoreCase action k.clueQuestion = true) := by
    rintro ⟨clue, -⟩
    exact other (here.symm.trans clue)
  cases line with
  | unknown state =>
      have spoken := jokeFree_unknown action (". " ++ k.prompt)
      rw [← String.append_assoc] at spoken
      exact .aside (unlike state (by decide)) (by simp [state]) spoken
  | started state => exact .aside (unlike state (by decide)) (by simp) jokeFree_knock
  | puzzled state => exact .aside (unlike state (by decide)) (by simp [state]) (jokeFree_correction _)
  | asked state => exact .clue state rfl rfl rfl
  | missed _ wrong =>
      refine .aside ?_ (by simp) (jokeFree_correction _)
      rintro ⟨-, right⟩
      rw [wrong] at right
      cases right
  | solved state right => exact .ending state right rfl rfl rfl
  | another state => exact .aside (unlike state (by decide)) (by simp) jokeFree_knock
  | declined => exact absurd rfl polite
  | unsure state => exact .aside (unlike state (by decide)) (by simp [state]) jokeFree_question

theorem Said.told_iff (said : Said k action next) (index : k.joke < jokes.length) :
    endedJoke? next.prompt = some joke ↔
      k.state = .gaveClue ∧ jokes[k.joke]? = some joke ∧
        Text.eqIgnoreCase action (jokeQuestion joke) = true := by
  have found := List.getElem?_eq_getElem index
  have member := List.getElem_mem index
  have asked : k.clueQuestion = jokeQuestion jokes[k.joke] := by rw [clueQuestion, clue_eq found, jokeQuestion]
  cases said with
  | clue state _ _ prompt =>
      rw [prompt, clue_eq found, endedJoke?_clue _ member, state]
      simp
  | ending state right _ _ prompt =>
      have told : k.punchline ++ " Want another? (y/n)" = jokeEnding jokes[k.joke] := by
        rw [punchline_eq found, jokeEnding]
      rw [prompt, told, endedJoke?_ending _ member, found]
      constructor
      · intro same
        cases same
        exact ⟨state, rfl, asked ▸ right⟩
      · exact fun same => same.2.1
  | aside other _ spoken =>
      rw [spoken.1]
      constructor
      · intro none
        cases none
      · rintro ⟨state, same, right⟩
        rw [found] at same
        cases same
        exact absurd ⟨state, asked ▸ right⟩ other

/-- Without the right question to a clue no punchline is told. -/
theorem Said.untold (said : Said k action next) (index : k.joke < jokes.length)
    (other : ¬(k.state = .gaveClue ∧ Text.eqIgnoreCase action k.clueQuestion = true)) :
    endedJoke? next.prompt = none := by
  rw [Option.eq_none_iff_forall_ne_some]
  intro joke told
  obtain ⟨state, found, right⟩ := (said.told_iff index).mp told
  refine other ⟨state, ?_⟩
  rw [clueQuestion, clue_eq found]
  exact right

/-- Whatever is said, it is a clue exactly when its question is waited for. -/
theorem Said.hinting (said : Said k action next) (index : k.joke < jokes.length) : next.Hinting := by
  have found := List.getElem?_eq_getElem index
  have member := List.getElem_mem index
  intro joke listed
  cases said with
  | clue _ state same prompt =>
      rw [prompt, clue_eq found, state, same, found, Option.some.injEq]
      constructor
      · exact fun clue => ⟨rfl, eq_of_clue _ member _ listed clue⟩
      · rintro ⟨-, rfl⟩
        rfl
  | ending _ _ state _ prompt =>
      rw [prompt, punchline_eq found, state]
      refine iff_of_false (ending_ne_clue _ member _ listed) ?_
      rintro ⟨hint, -⟩
      cases hint
  | aside _ other spoken =>
      refine iff_of_false (spoken.2 joke listed) ?_
      rintro ⟨hint, -⟩
      exact other hint

theorem stands (line : Line k action next) (stands : k.Stands told) (polite : next.prompt ≠ goodbye) :
    next.Stands (told + (endedJoke? next.prompt).toList.length) := by
  have index := stands.index
  have said := line.said polite
  have quiet (other : ¬(k.state = .gaveClue ∧ Text.eqIgnoreCase action k.clueQuestion = true)) :
      told + (endedJoke? next.prompt).toList.length = told := by
    rw [said.untold index other]
    rfl
  have elsewhere {state : JokeState} (here : k.state = state) (other : state ≠ .gaveClue) :
      told + (endedJoke? next.prompt).toList.length = told := by
    refine quiet ?_
    rintro ⟨clue, -⟩
    exact other (here.symm.trans clue)
  cases line with
  | unknown state =>
      rw [elsewhere state (by decide)]
      exact stands
  | started state =>
      rw [elsewhere state (by decide)]
      rw [Stands, state] at stands
      obtain ⟨rfl, first⟩ := stands
      exact first
  | puzzled state =>
      rw [elsewhere state (by decide)]
      exact stands
  | asked state =>
      rw [elsewhere state (by decide)]
      rw [Stands, state] at stands
      exact stands
  | missed state wrong =>
      rw [quiet (by simp [wrong])]
      rw [Stands, state] at stands
      exact stands
  | solved state right =>
      have found := List.getElem?_eq_getElem index
      have told' := (said.told_iff index).mpr ⟨state, found, by
        rw [clueQuestion, clue_eq found] at right
        exact right⟩
      rw [told']
      rw [Stands, state] at stands
      exact ⟨Nat.succ_pos told, stands⟩
  | another state =>
      rw [elsewhere state (by decide)]
      rw [Stands, state] at stands
      obtain ⟨some, last⟩ := stands
      -- The joke after the one that was told last.
      change (k.joke + 1) % jokes.length = told % jokes.length
      rw [last, Nat.mod_add_mod, Nat.sub_add_cancel some]
  | declined => exact absurd rfl polite
  | unsure state =>
      rw [elsewhere state (by decide)]
      exact stands

theorem knocking (line : Line k action next) (index : k.joke < jokes.length) (knocking : k.Knocking) :
    next.Knocking := by
  intro last
  cases line with
  | unknown state =>
      -- The complaint ends as what was said before.
      rw [last_append, last_append] at last
      cases before : k.prompt.toList.getLast? with
      | none =>
          rw [before] at last
          cases last
      | some c =>
          rw [before, Option.some_or] at last
          exact knocking (before.trans last)
  | started | missed | another => rfl
  | puzzled state => exact state
  | asked =>
      rw [clue_eq (List.getElem?_eq_getElem index)] at last
      exact absurd last (last_clue _ (List.getElem_mem index))
  | solved =>
      rw [last_append] at last
      cases last
  | declined => exact absurd (show goodbye.toList.getLast? = some '!' from last) (by decide)
  | unsure => exact absurd (show "Want another? (y/n)".toList.getLast? = some '!' from last) (by decide)

/-- The one who asks who is there is given the clue. -/
theorem prompt_of_asked (line : Line k action next) (state : k.state = .knocked) (found : jokes[k.joke]? = some joke)
    (right : Text.eqIgnoreCase action "Who's there?" = true) : next.prompt = joke.1 := by
  cases line with
  | asked => exact clue_eq found
  | puzzled _ wrong =>
      rw [right] at wrong
      cases wrong
  | unknown other | started other | missed other | solved other | another other | declined other
  | unsure other =>
      rw [state] at other
      cases other

/-- A wrong answer to a clue leads back to the knock, and the joke stays the same. -/
theorem wrong (line : Line k action next) (state : k.state = .gaveClue) (found : jokes[k.joke]? = some joke)
    (wrong : Text.eqIgnoreCase action (jokeQuestion joke) = false) :
    next = { k with state := .knocked, prompt := correction (jokeQuestion joke) } := by
  have asked : k.clueQuestion = jokeQuestion joke := by rw [clueQuestion, clue_eq found, jokeQuestion]
  cases line with
  | missed => rw [asked]
  | solved _ right =>
      rw [asked, wrong] at right
      cases right
  | unknown other | started other | puzzled other | asked other | another other | declined other
  | unsure other =>
      rw [state] at other
      cases other

end Line

end KnockKnock

/-- An instance and what was said with it, the oldest first. -/
structure JokeRun where
  protocol : KnockKnock := {}
  log : List JokeExchange := []

namespace JokeRun

def ask (r : JokeRun) (p : Payload) : JokeRun :=
  let e : JokeExchange := ⟨r.protocol, p⟩
  { protocol := e.next, log := r.log ++ [e] }

def after (requests : List Payload) : JokeRun :=
  requests.foldl ask {}

theorem after_concat (requests : List Payload) (p : Payload) :
    after (requests ++ [p]) = (after requests).ask p := by
  rw [after, List.foldl_append]
  rfl

/-- What was said since the last reset, or from the start when there was none. -/
def current (r : JokeRun) : List JokeExchange :=
  sinceLast JokeExchange.resets r.log

end JokeRun

/-- An exchange that is proper after those before it. -/
structure JokeExchange.Proper (earlier : List JokeExchange) (e : JokeExchange) : Prop where
  /-- A ping is told again what was said last. -/
  pinged : e.pings = true →
    e.reply.response = some ((lastSaid earlier).getD "Want to hear a joke?") ∧ e.next = e.before
  /-- A punchline is told exactly to whoever asks about its clue, right after the clue. -/
  told_iff : ∀ joke ∈ jokes, e.told? = some joke ↔
    lastSaid earlier = some joke.1 ∧ Text.eqIgnoreCase e.action (joke.1 ++ " who?") = true
  /-- The clue is that of the next joke to tell. -/
  clue : ∀ joke ∈ jokes, e.said? = some joke.1 →
    jokes[(toldIn earlier).length % jokes.length]? = some joke
  /-- To a knock "Who's there?" is answered by the clue of the next joke. -/
  asked : ∀ said, lastSaid earlier = some said → Knocks said →
    Text.eqIgnoreCase e.action "Who's there?" = true →
      ∃ joke, jokes[(toldIn earlier).length % jokes.length]? = some joke ∧ e.said? = some joke.1
  /-- After a wrong answer to a clue the same joke is started again. -/
  wrong : ∀ joke ∈ jokes, lastSaid earlier = some joke.1 → e.pings = false →
    Text.eqIgnoreCase e.action (joke.1 ++ " who?") = false →
      e.reply.response = some
          ("You're supposed to say \"" ++ (joke.1 ++ " who?") ++ "\"! Try again. Knock! Knock!") ∧
        e.next.state = .knocked ∧ e.next.joke = e.before.joke ∧ jokes[e.next.joke]? = some joke

/-- Where the jokes stand after what was said. -/
structure Telling (log : List JokeExchange) (k : KnockKnock) : Prop where
  prompt : k.prompt = (lastSaid log).getD "Want to hear a joke?"
  hinting : k.Hinting
  knocking : k.Knocking
  stands : k.Stands (toldIn log).length
  order : ∀ (i : Nat) joke, (toldIn log)[i]? = some joke → jokes[i % jokes.length]? = some joke

namespace Telling

variable {log : List JokeExchange} {k : KnockKnock}

theorem start : Telling [] {} where
  prompt := rfl
  hinting joke member := by
    refine iff_of_false (opening_ne_clue joke member) ?_
    rintro ⟨hint, -⟩
    cases hint
  knocking := by
    intro last
    cases last
  stands := ⟨rfl, rfl⟩
  order := nofun

/-- The clue was said last exactly while its question is waited for. -/
theorem heard_iff (h : Telling log k) {joke : String × String} (member : joke ∈ jokes) :
    lastSaid log = some joke.1 ↔ k.state = .gaveClue ∧ jokes[k.joke]? = some joke := by
  rw [← h.hinting joke member, h.prompt]
  cases lastSaid log with
  | none =>
      constructor
      · intro none
        cases none
      · intro opening
        exact absurd opening (opening_ne_clue joke member)
  | some said => rw [Option.some.injEq, Option.getD_some]

/-- The joke that the state names follows those that were told. -/
theorem next_joke (h : Telling log k) (state : k.state = .gaveClue ∨ k.state = .knocked) :
    k.joke = (toldIn log).length % jokes.length := by
  have stands := h.stands
  rcases state with state | state
  · rw [KnockKnock.Stands, state] at stands
    exact stands
  · rw [KnockKnock.Stands, state] at stands
    exact stands

theorem pinged {e : JokeExchange} (h : Telling log e.before) (ping : e.pings = true) :
    Telling (log ++ [e]) e.next ∧ e.Proper log := by
  have asks : e.request.effectiveAction = Action.ping := beq_iff_eq.mp ping
  have same : e.before.process e.request = (e.before.say Action.ping, e.before) := by
    rw [KnockKnock.process, if_pos (beq_iff_eq.mpr asks)]
  have still : e.next = e.before := congrArg Prod.snd same
  have silent : e.said? = none := if_pos ping
  have untold : e.told? = none := by rw [JokeExchange.told?, silent, Option.bind_none]
  have last : lastSaid (log ++ [e]) = lastSaid log := by rw [lastSaid_concat, silent, Option.none_or]
  have told : toldIn (log ++ [e]) = toldIn log := by
    rw [toldIn_concat, untold]
    exact List.append_nil _
  rw [still]
  refine ⟨⟨last ▸ h.prompt, h.hinting, h.knocking, told ▸ h.stands, told ▸ h.order⟩, ?_, ?_, ?_, ?_, ?_⟩
  · intro _
    refine ⟨?_, still⟩
    rw [← h.prompt]
    exact congrArg (fun answer => answer.1.response) same
  · intro joke member
    rw [untold]
    constructor
    · intro none
      cases none
    · rintro ⟨-, right⟩
      have unlike := ping_ne_question joke member
      change Text.eqIgnoreCase e.request.effectiveAction (jokeQuestion joke) = true at right
      rw [asks, unlike] at right
      cases right
  · intro joke _ said
    rw [silent] at said
    cases said
  · intro _ _ _ right
    change Text.eqIgnoreCase e.request.effectiveAction "Who's there?" = true at right
    rw [asks] at right
    cases right
  · intro joke _ _ noPing
    rw [ping] at noPing
    cases noPing

theorem line {e : JokeExchange} (h : Telling log e.before) (noPing : e.pings = false)
    (line : e.before.Line e.action e.next) (polite : e.next.prompt ≠ goodbye) :
    Telling (log ++ [e]) e.next ∧ e.Proper log := by
  have said := line.said polite
  have index := h.stands.index
  have response : e.reply.response = some e.next.prompt := e.before.response_process e.request
  have spoken : e.said? = some e.next.prompt := by
    rw [JokeExchange.said?, if_neg (Bool.eq_false_iff.mp noPing), response]
  have tells : e.told? = endedJoke? e.next.prompt := by
    rw [JokeExchange.told?, spoken, Option.bind_some]
  have last : lastSaid (log ++ [e]) = some e.next.prompt := by
    rw [lastSaid_concat, spoken, Option.some_or]
  refine ⟨⟨?_, said.hinting index, line.knocking index h.knocking, ?_, ?_⟩, ?_, ?_, ?_, ?_, ?_⟩
  · rw [last, Option.getD_some]
  · rw [toldIn_concat, List.length_append, tells]
    exact line.stands h.stands polite
  · intro i joke found
    rw [toldIn_concat, List.getElem?_append] at found
    split at found
    · exact h.order i joke found
    · next behind =>
        rw [tells] at found
        cases told : endedJoke? e.next.prompt with
        | none =>
            rw [told] at found
            cases found
        | some last =>
            -- The joke that was just told is the one that its clue named.
            rw [told, Option.toList_some, List.getElem?_singleton] at found
            split at found
            · next first =>
                cases found
                obtain ⟨state, here, -⟩ := (said.told_iff index).mp told
                have place : i = (toldIn log).length := by omega
                rw [place, ← h.next_joke (.inl state)]
                exact here
            · cases found
  · intro ping
    rw [noPing] at ping
    cases ping
  · intro joke member
    rw [tells, said.told_iff index, h.heard_iff member, and_assoc]
    rfl
  · intro joke member clue
    have hint := said.hinting index joke member
    rw [spoken, Option.some.injEq] at clue
    obtain ⟨state, here⟩ := hint.mp clue
    have stands := line.stands h.stands polite
    rw [clue, endedJoke?_clue joke member, KnockKnock.Stands, state] at stands
    rw [← here, stands]
    rfl
  · intro knock heard knocks right
    have prompt : e.before.prompt = knock := by rw [h.prompt, heard, Option.getD_some]
    have state := h.knocking (prompt ▸ last_of_knocks knocks)
    have found := List.getElem?_eq_getElem index
    refine ⟨jokes[e.before.joke], ?_, ?_⟩
    · rw [← h.next_joke (.inr state)]
      exact found
    · rw [spoken, line.prompt_of_asked state found right]
  · intro joke member heard _ wrong
    obtain ⟨state, here⟩ := (h.heard_iff member).mp heard
    have next := line.wrong state here wrong
    rw [response, next]
    exact ⟨rfl, rfl, rfl, here⟩

end Telling

/-- How the jokes are told in a run. -/
structure JokesTold (r : JokeRun) : Prop where
  index : r.protocol.joke < jokes.length
  /-- They are told in their order, and over again. -/
  order : ∀ (i : Nat) joke, (toldIn r.current)[i]? = some joke → jokes[i % jokes.length]? = some joke
  proper : ∀ (i : Nat) e, r.current[i]? = some e → e.Proper (r.current.take i)

/-- A run whose state is what was said since the last reset makes of it. -/
structure JokeRun.InStep (r : JokeRun) : Prop where
  telling : Telling r.current r.protocol
  proper : ∀ (i : Nat) e, r.current[i]? = some e → e.Proper (r.current.take i)

namespace JokeRun

variable {r : JokeRun} {p : Payload}

theorem current_ask (r : JokeRun) (p : Payload) :
    (r.ask p).current =
      if p.effectiveAction == Action.reset then [] else r.current ++ [⟨r.protocol, p⟩] :=
  sinceLast_concat _ _ _

theorem InStep.of_fresh (fresh : r.protocol = {}) (silent : r.current = []) : r.InStep := by
  refine ⟨?_, ?_⟩
  · rw [fresh, silent]
    exact Telling.start
  · intro i e found
    rw [silent] at found
    cases found

theorem InStep.reset (r : JokeRun) (resets : p.effectiveAction = Action.reset) : (r.ask p).InStep := by
  refine .of_fresh ?_ ?_
  · change (r.protocol.process p).2 = {}
    rw [KnockKnock.process, resets]
    rfl
  · rw [current_ask, if_pos (beq_iff_eq.mpr resets)]

theorem InStep.ask (h : r.InStep) (goes : p.effectiveAction ≠ Action.reset)
    (polite : (JokeExchange.mk r.protocol p).reply.isTerminal = false) : (r.ask p).InStep := by
  have current : (r.ask p).current = r.current ++ [⟨r.protocol, p⟩] := by
    rw [current_ask, if_neg (mt beq_iff_eq.mp goes)]
  have grown : Telling (r.current ++ [⟨r.protocol, p⟩]) (JokeExchange.mk r.protocol p).next ∧
      JokeExchange.Proper r.current ⟨r.protocol, p⟩ := by
    by_cases pings : p.effectiveAction = Action.ping
    · exact h.telling.pinged (e := ⟨r.protocol, p⟩) (beq_iff_eq.mpr pings)
    · rw [Payload.isTerminal, JokeExchange.reply, KnockKnock.response_process,
        beq_eq_false_iff_ne] at polite
      have line := KnockKnock.line_reply r.protocol p.effectiveAction
      rw [← KnockKnock.process_of_line pings goes] at line
      exact h.telling.line (e := ⟨r.protocol, p⟩) (beq_eq_false_iff_ne.mpr pings) line
        fun bye => polite (congrArg some bye)
  refine ⟨?_, ?_⟩
  · rw [current]
    exact grown.1
  · rw [current]
    exact follows_concat h.proper grown.2

/-- Only what was said since the last reset has to be without a goodbye. -/
theorem inStep_after (requests : List Payload)
    (polite : ∀ e ∈ (after requests).current, e.reply.isTerminal = false) : (after requests).InStep := by
  induction requests using List.reverseRecOn with
  | nil => exact .of_fresh rfl rfl
  | append_singleton requests p ih =>
      rw [after_concat] at polite ⊢
      by_cases resets : p.effectiveAction = Action.reset
      · exact .reset _ resets
      · rw [current_ask, if_neg (mt beq_iff_eq.mp resets)] at polite
        have before := ih fun e member => polite e (List.mem_append_left _ member)
        exact before.ask resets (polite _ (List.mem_append_right _ (List.mem_singleton_self _)))

end JokeRun

theorem jokes_told (requests : List Payload)
    (polite : ∀ e ∈ (JokeRun.after requests).current, e.reply.isTerminal = false) :
    JokesTold (JokeRun.after requests) := by
  have inStep := JokeRun.inStep_after requests polite
  exact ⟨inStep.telling.stands.index, inStep.telling.order, inStep.proper⟩

/-- A goodbye and a reset, then a wrong answer, a ping and the first joke. -/
def hesitation : List Payload :=
  ["Start", "Who's there?", "turnip who?", "n", "Reset", "Start", "who's there?", "What?", "Who's there?",
    "Ping", "Turnip who?"].map Payload.request

theorem hesitation_told :
    (∀ e ∈ (JokeRun.after hesitation).current, e.reply.isTerminal = false) ∧
      toldIn (JokeRun.after hesitation).current = jokes.take 1 ∧ JokesTold (JokeRun.after hesitation) := by
  have polite : ∀ e ∈ (JokeRun.after hesitation).current, e.reply.isTerminal = false := by
    decide +kernel
  have told : toldIn (JokeRun.after hesitation).current = jokes.take 1 := by
    decide +kernel
  exact ⟨polite, told, jokes_told hesitation polite⟩

end Switchboard
