import Switchboard.Payload.Basic
import Switchboard.Text.Blank

/-!
Knock-knock jokes, told in an exchange of fixed lines. A wrong line does not skip a joke.
-/

namespace Switchboard

def knockKnockKey : String := "KnockKnockProtocol"

/-- The clues and punchlines of the jokes, in the order they are told. -/
def jokes : List (String × String) := [
  ("Turnip", "Turnip the heat, it's cold in here!"),
  ("Little Old Lady", "I didn't know you could yodel!"),
  ("Atch", "Bless you!"),
  ("Who", "Is there an owl in here?"),
  ("Who Who", "Is there an echo in here?")]

inductive JokeState
  /-- To be asked for a joke. -/
  | waiting
  /-- To be asked who is there. -/
  | knocked
  /-- To be asked about the clue. -/
  | gaveClue
  /-- To be told whether to go on. -/
  | askedAgain
  deriving DecidableEq, Repr, Inhabited

structure KnockKnock where
  state : JokeState := .waiting
  joke : Nat := 0
  /-- What was said last. -/
  prompt : String := "Want to hear a joke?"
  deriving DecidableEq, Repr, Inhabited

namespace KnockKnock

def clue (k : KnockKnock) : String :=
  (jokes[k.joke]?.getD ("", "")).1

def punchline (k : KnockKnock) : String :=
  (jokes[k.joke]?.getD ("", "")).2

def clueQuestion (k : KnockKnock) : String :=
  k.clue ++ " who?"

def commands (k : KnockKnock) : List String :=
  match k.state with
  | .waiting => menu ["Start"]
  | .knocked => menu ["Who's there?"]
  | .gaveClue => menu [k.clueQuestion]
  | .askedAgain => menu ["y", "n"]

def say (k : KnockKnock) (action : String) : Payload :=
  { key := knockKnockKey
    action := some action
    response := some k.prompt
    commands := k.commands }

/-- Moves on and says something. -/
def respond (k : KnockKnock) (action prompt : String) : Payload × KnockKnock :=
  let k := { k with prompt }
  (k.say action, k)

def correction (expected : String) : String :=
  "You're supposed to say \"" ++ expected ++ "\"! Try again. Knock! Knock!"

def reply (k : KnockKnock) (action : String) : Payload × KnockKnock :=
  match k.state with
  | .waiting =>
    if action == "Start" then { k with state := .knocked }.respond action "Knock! Knock!"
    else k.respond action ("Unknown action: " ++ action ++ ". " ++ k.prompt)
  | .knocked =>
    if Text.eqIgnoreCase action "Who's there?" then
      { k with state := .gaveClue }.respond action k.clue
    else k.respond action (correction "Who's there?")
  | .gaveClue =>
    if Text.eqIgnoreCase action k.clueQuestion then
      { k with state := .askedAgain }.respond action (k.punchline ++ " Want another? (y/n)")
    else { k with state := .knocked }.respond action (correction k.clueQuestion)
  | .askedAgain =>
    if Text.eqIgnoreCase action "y" then
      { k with state := .knocked, joke := (k.joke + 1) % jokes.length }.respond action "Knock! Knock!"
    else if Text.eqIgnoreCase action "n" then { k with state := .waiting }.respond action goodbye
    else k.respond action "Want another? (y/n)"

def process (k : KnockKnock) (p : Payload) : Payload × KnockKnock :=
  let action := p.effectiveAction
  if action == Action.ping then (k.say Action.ping, k)
  else if action == Action.reset then
    ({} : KnockKnock).respond Action.reset "Want to hear a joke?"
  else k.reply action

end KnockKnock

end Switchboard
