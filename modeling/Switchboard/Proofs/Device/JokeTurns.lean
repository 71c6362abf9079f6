import Switchboard.Proofs.Device.Menus

/-!
What one request does to the jokes. A ping leaves them as they are, a reset starts them over, and any other
line is right or wrong for the state they are in.
-/

namespace Switchboard

namespace KnockKnock

/-- The cases of a line, with the state that it leads to. -/
inductive Line (k : KnockKnock) (action : String) : KnockKnock → Prop
  | unknown : k.state = .waiting → action ≠ "Start" →
    Line k action { k with prompt := "Unknown action: " ++ action ++ ". " ++ k.prompt }
  | started : k.state = .waiting → action = "Start" →
    Line k action { k with state := .knocked, prompt := "Knock! Knock!" }
  | puzzled : k.state = .knocked → Text.eqIgnoreCase action "Who's there?" = false →
    Line k action { k with prompt := correction "Who's there?" }
  | asked : k.state = .knocked → Text.eqIgnoreCase action "Who's there?" = true →
    Line k action { k with state := .gaveClue, prompt := k.clue }
  | missed : k.state = .gaveClue → Text.eqIgnoreCase action k.clueQuestion = false →
    Line k action { k with state := .knocked, prompt := correction k.clueQuestion }
  | solved : k.state = .gaveClue → Text.eqIgnoreCase action k.clueQuestion = true →
    Line k action { k with state := .askedAgain, prompt := k.punchline ++ " Want another? (y/n)" }
  | another : k.state = .askedAgain → Text.eqIgnoreCase action "y" = true →
    Line k action
      { state := .knocked, joke := (k.joke + 1) % jokes.length, prompt := "Knock! Knock!" }
  | declined : k.state = .askedAgain → Text.eqIgnoreCase action "n" = true →
    Line k action { k with state := .waiting, prompt := goodbye }
  | unsure : k.state = .askedAgain → Text.eqIgnoreCase action "y" = false →
    Text.eqIgnoreCase action "n" = false → Line k action { k with prompt := "Want another? (y/n)" }

/-- The cases of a request. -/
inductive Turn (k : KnockKnock) (action : String) : KnockKnock → Prop
  | pinged : action = Action.ping → Turn k action k
  | reset : action = Action.reset → Turn k action {}
  | line (next : KnockKnock) : action ≠ Action.ping → action ≠ Action.reset → Line k action next →
    Turn k action next

theorem line_reply (k : KnockKnock) (action : String) : Line k action (k.reply action).2 := by
  rw [reply]
  cases state : k.state with
  | waiting =>
      dsimp only
      split
      · next starts => exact .started state (beq_iff_eq.mp starts)
      · next other => exact .unknown state fun starts => other (beq_iff_eq.mpr starts)
  | knocked =>
      dsimp only
      split
      · next right => exact .asked state right
      · next wrong => exact .puzzled state (Bool.eq_false_iff.mpr wrong)
  | gaveClue =>
      dsimp only
      split
      · next right => exact .solved state right
      · next wrong => exact .missed state (Bool.eq_false_iff.mpr wrong)
  | askedAgain =>
      dsimp only
      split
      · next yes => exact .another state yes
      · next noYes =>
          split
          · next no => exact .declined state no
          · next noNo => exact .unsure state (Bool.eq_false_iff.mpr noYes) (Bool.eq_false_iff.mpr noNo)

theorem turn_process (k : KnockKnock) (p : Payload) : Turn k p.effectiveAction (k.process p).2 := by
  by_cases pings : p.effectiveAction = Action.ping
  · have still : (k.process p).2 = k := by rw [process, if_pos (beq_iff_eq.mpr pings)]
    rw [still]
    exact .pinged pings
  · by_cases resets : p.effectiveAction = Action.reset
    · have afresh : (k.process p).2 = {} := by
        rw [process, resets]
        rfl
      rw [afresh]
      exact .reset resets
    · rw [process_of_line pings resets]
      exact .line _ pings resets (line_reply k _)

/-- Tells that the jokes ask whether to go on. -/
def Asks (k : KnockKnock) : Prop :=
  k.state = .askedAgain ∧ "Want another? (y/n)".toList <:+ k.prompt.toList

/-- The question stands at the end of what was said whenever its answer is waited for. -/
def Frank (k : KnockKnock) : Prop :=
  k.state = .askedAgain → k.Asks

variable {k next : KnockKnock} {action : String}

theorem Line.frank (line : Line k action next) : next.Frank := by
  intro asked
  cases line with
  | solved =>
      refine ⟨rfl, k.punchline.toList ++ [' '], ?_⟩
      rw [String.toList_append, List.append_assoc]
      rfl
  | unsure => exact ⟨asked, List.suffix_refl _⟩
  | unknown state | puzzled state =>
      rw [state] at asked
      cases asked
  | started | asked | missed | another | declined => cases asked

theorem Turn.frank (turn : Turn k action next) (frank : k.Frank) : next.Frank := by
  cases turn with
  | pinged => exact frank
  | reset =>
      intro asked
      cases asked
  | line next _ _ line => exact line.frank

end KnockKnock

end Switchboard
