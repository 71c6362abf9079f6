import Switchboard.Proofs.Router.Turns
import Switchboard.Proofs.Device.RfTurns
import Switchboard.Proofs.Device.ZigBeeTurns
import Switchboard.Device.Registry

/-!
Menus of the protocols. A reply lists what the protocol understands in the state that the request has led
to: without data such a command is not answered as one that the protocol does not know. What needs the
hardware is listed while the hardware is available.
-/

namespace Switchboard

/-- What a reply says, apart from the key and the menu. -/
def Payload.content (p : Payload) : Option String × Option String × Option String :=
  (p.action, p.data, p.response)

def Text.first (text : String) : Option Char :=
  text.toList.head?

theorem Text.first_append {a : String} {c : Char} (starts : first a = some c) (rest : String) :
    first (a ++ rest) = some c := by
  rw [first] at starts ⊢
  rw [String.toList_append, List.head?_append, starts, Option.some_or]

theorem first_unknown (action : String) : Text.first ("Unknown action: " ++ action) = some 'U' :=
  Text.first_append (by decide) action

theorem Payload.content_ne_of_action {p q : Payload} {a b : String} (asked : p.action = some a)
    (asked' : q.action = some b) (apart : a ≠ b) : p.content ≠ q.content := by
  intro same
  have same : some a = some b := asked.symm.trans ((congrArg (·.1) same).trans asked')
  exact apart (Option.some.inj same)

theorem Payload.content_ne_of_first {p q : Payload} {said other : String} {c d : Char}
    (told : p.response = some said) (told' : q.response = some other)
    (starts : Text.first said = some c) (starts' : Text.first other = some d) (apart : c ≠ d) :
    p.content ≠ q.content := by
  intro same
  have same : some said = some other := told.symm.trans ((congrArg (·.2.2) same).trans told')
  rw [Option.some.inj same, starts'] at starts
  exact apart (Option.some.inj starts).symm

theorem mem_menu {action : String} {actions : List String} (listed : action ∈ menu actions)
    (other : action ≠ Action.reset) : action ∈ actions := by
  rw [menu, List.mem_append, List.mem_singleton, List.mem_filter] at listed
  exact (listed.resolve_right other).1

namespace KnockKnock

/-- Tells whether a line moves the joke on. -/
def follows (k : KnockKnock) (action : String) : Bool :=
  match k.state with
  | .waiting => action == "Start"
  | .knocked => Text.eqIgnoreCase action "Who's there?"
  | .gaveClue => Text.eqIgnoreCase action k.clueQuestion
  | .askedAgain => Text.eqIgnoreCase action "y" || Text.eqIgnoreCase action "n"

/-- The reply to a line that does not move the joke on. -/
def stray (k : KnockKnock) (action : String) : Payload :=
  match k.state with
  | .waiting => (k.respond action ("Unknown action: " ++ action ++ ". " ++ k.prompt)).1
  | .knocked => (k.respond action (correction "Who's there?")).1
  | .gaveClue => ({ k with state := .knocked }.respond action (correction k.clueQuestion)).1
  | .askedAgain => (k.respond action "Want another? (y/n)").1

variable {k : KnockKnock} {action : String}

theorem reply_of_not_follows (unlike : k.follows action = false) :
    (k.reply action).1 = k.stray action := by
  rw [follows] at unlike
  rw [reply, stray]
  cases state : k.state with
  | waiting =>
      rw [state] at unlike
      exact congrArg Prod.fst (if_neg (Bool.eq_false_iff.mp unlike))
  | knocked =>
      rw [state] at unlike
      exact congrArg Prod.fst (if_neg (Bool.eq_false_iff.mp unlike))
  | gaveClue =>
      rw [state] at unlike
      exact congrArg Prod.fst (if_neg (Bool.eq_false_iff.mp unlike))
  | askedAgain =>
      rw [state] at unlike
      dsimp only at unlike ⊢
      rw [Bool.or_eq_false_iff] at unlike
      rw [if_neg (Bool.eq_false_iff.mp unlike.1), if_neg (Bool.eq_false_iff.mp unlike.2)]

theorem first_correction (expected : String) : Text.first (correction expected) = some 'Y' :=
  Text.first_append (Text.first_append (by decide +kernel) expected) _

theorem joke_mem (k : KnockKnock) : (k.clue, k.punchline) ∈ ("", "") :: jokes := by
  rw [clue, punchline]
  cases told : jokes[k.joke]? with
  | none => exact List.mem_cons_self
  | some joke => exact List.mem_cons_of_mem _ (List.mem_of_getElem? told)

theorem clue_ne_correction (k : KnockKnock) : k.clue ≠ correction "Who's there?" := by
  have apart : ∀ joke ∈ ("", "") :: jokes, joke.1 ≠ correction "Who's there?" := by
    decide +kernel
  exact apart _ k.joke_mem

theorem punchline_ne_correction (k : KnockKnock) (expected : String) :
    k.punchline ++ " Want another? (y/n)" ≠ correction expected := by
  have apart : ∀ joke ∈ ("", "") :: jokes,
      Text.first (joke.2 ++ " Want another? (y/n)") ≠ some 'Y' := by
    decide +kernel
  intro same
  exact apart _ k.joke_mem ((congrArg Text.first same).trans (first_correction expected))

theorem content_respond (k : KnockKnock) (action prompt : String) :
    (k.respond action prompt).1.content = (some action, none, some prompt) := rfl

/-- The reply to a line that moves the joke on is not the one to a wrong line. -/
theorem content_reply_ne (follows : k.follows action = true) :
    (k.reply action).1.content ≠ (k.stray action).content := by
  rw [KnockKnock.follows] at follows
  rw [reply, stray]
  intro same
  cases state : k.state with
  | waiting =>
      simp only [state] at follows same
      rw [if_pos follows] at same
      have knock : Text.first "Knock! Knock!" = some 'K' := by decide
      have stray := Text.first_append (Text.first_append (first_unknown action) ". ") k.prompt
      exact Payload.content_ne_of_first rfl rfl knock stray (by decide) same
  | knocked =>
      simp only [state] at follows same
      rw [if_pos follows, content_respond, content_respond] at same
      exact k.clue_ne_correction (Option.some.inj (congrArg (·.2.2) same))
  | gaveClue =>
      simp only [state] at follows same
      rw [if_pos follows, content_respond, content_respond] at same
      exact k.punchline_ne_correction _ (Option.some.inj (congrArg (·.2.2) same))
  | askedAgain =>
      simp only [state] at follows same
      rw [Bool.or_eq_true] at follows
      have knock : "Knock! Knock!" ≠ "Want another? (y/n)" := by decide
      have bye : goodbye ≠ "Want another? (y/n)" := by decide
      split at same
      · exact knock (Option.some.inj (congrArg (·.2.2) same))
      · next again =>
          rw [if_pos (follows.resolve_left again)] at same
          exact bye (Option.some.inj (congrArg (·.2.2) same))

theorem eqIgnoreCase_self (text : String) : Text.eqIgnoreCase text text = true :=
  beq_self_eq_true _

/-- The lines that are listed move the joke on. -/
theorem follows_of_mem_commands (listed : action ∈ k.commands) (other : action ≠ Action.reset) :
    k.follows action = true := by
  rw [commands] at listed
  rw [KnockKnock.follows]
  cases state : k.state with
  | waiting =>
      rw [state] at listed
      exact beq_iff_eq.mpr (List.mem_singleton.mp (mem_menu listed other))
  | knocked =>
      rw [state] at listed
      rw [List.mem_singleton.mp (mem_menu listed other)]
      exact eqIgnoreCase_self _
  | gaveClue =>
      rw [state] at listed
      rw [List.mem_singleton.mp (mem_menu listed other)]
      exact eqIgnoreCase_self _
  | askedAgain =>
      rw [state] at listed
      have either := mem_menu listed other
      simp only [List.mem_cons, List.not_mem_nil, or_false] at either
      rcases either with rfl | rfl
      · exact Bool.or_eq_true_iff.mpr (.inl (eqIgnoreCase_self _))
      · exact Bool.or_eq_true_iff.mpr (.inr (eqIgnoreCase_self _))

theorem process_of_line {p : Payload} (noPing : p.effectiveAction ≠ Action.ping)
    (noReset : p.effectiveAction ≠ Action.reset) : k.process p = k.reply p.effectiveAction := by
  rw [process, if_neg (by simpa using noPing), if_neg (by simpa using noReset)]

theorem commands_reply (k : KnockKnock) (action : String) :
    (k.reply action).1.commands = (k.reply action).2.commands := by
  rw [reply]
  split
  · split <;> rfl
  · split <;> rfl
  · split <;> rfl
  · split
    · rfl
    · split <;> rfl

/-- Every reply lists the lines of the state that it leaves. -/
theorem commands_process (k : KnockKnock) (p : Payload) :
    (k.process p).1.commands = (k.process p).2.commands := by
  rw [process]
  split
  · rfl
  · split
    · rfl
    · exact k.commands_reply _

end KnockKnock

/-- A reply with the menu of the state that it leaves. -/
def CurrentMenu {S W : Type} (commands : S → W → List String) (result : Payload × S × W) : Prop :=
  result.1.commands = commands result.2.1 result.2.2

variable {R D : Type}

namespace RfSwitch

/-- What the protocol can be asked, apart from a ping and a reset. -/
def actions : List String :=
  ["ListSwitches", "AddSwitch", "RemoveSwitch"] ++ transmitActions

def stray (r : RfSwitch) (h : Hardware R D) (action : String) : Payload :=
  r.reply h action ("Unknown action: " ++ action)

variable {r : RfSwitch} {h : Hardware R D}

theorem content_switchTo_ne {action : String} (on : Bool) (other : action ≠ Action.commandInfo) :
    (r.switchTo h action on none).1.content ≠ (r.stray h action).content := by
  rw [switchTo]
  split
  · have off := Text.first_append (c := 'R') (a := "RF radio unavailable; ") (by decide) action
    exact Payload.content_ne_of_first rfl rfl (Text.first_append off _) (first_unknown action) (by decide)
  · exact Payload.content_ne_of_action rfl rfl (Ne.symm other)

theorem content_allOff_ne : (r.allOff h).1.content ≠ (r.stray h "AllOff").content := by
  rw [allOff]
  split
  case isTrue =>
    exact Payload.content_ne_of_first rfl rfl (c := 'R') (by decide) (first_unknown _) (by decide)
  case isFalse ready =>
    rw [Bool.not_eq_true', Bool.not_eq_false] at ready
    dsimp only
    rw [transmitOff_of_ready ready]
    have done := Text.first_append (c := 'E') (a := "Executing AllOff on ") (by decide)
      (toString (r.switches h).length)
    exact Payload.content_ne_of_first rfl rfl (Text.first_append done _) (first_unknown _) (by decide)

/-- Without data, no action of the protocol is answered as an unknown one. -/
theorem content_process_ne {action : String} (known : action ∈ actions) :
    (r.process (.request action) h).1.content ≠ (r.stray h action).content := by
  simp only [actions, transmitActions, List.cons_append, List.nil_append, List.mem_cons,
    List.not_mem_nil, or_false] at known
  rcases known with rfl | rfl | rfl | rfl | rfl | rfl
  · intro same
    cases congrArg (·.2.1) same
  · exact Payload.content_ne_of_action (a := Action.commandInfo) rfl rfl (by decide)
  · exact Payload.content_ne_of_action (a := Action.commandInfo) rfl rfl (by decide)
  · exact content_switchTo_ne true (by decide)
  · exact content_switchTo_ne false (by decide)
  · exact content_allOff_ne

theorem process_of_unknown {p : Payload} (noPing : p.effectiveAction ≠ Action.ping)
    (noReset : p.effectiveAction ≠ Action.reset) (unknown : p.effectiveAction ∉ actions) :
    (r.process p h).1 = r.stray h p.effectiveAction := by
  simp only [actions, transmitActions, List.cons_append, List.nil_append, List.mem_cons,
    List.not_mem_nil, or_false, not_or] at unknown
  obtain ⟨list, add, remove, on, off, allOff⟩ := unknown
  rw [process]
  split
  · next action => exact absurd action noPing
  · next action => exact absurd action noReset
  · next action => exact absurd action list
  · next action => exact absurd action on
  · next action => exact absurd action off
  · next action => exact absurd action allOff
  · next action => exact absurd action add
  · next action => exact absurd action remove
  · rfl

theorem mem_commands {action : String} (listed : action ∈ r.commands h)
    (other : action ≠ Action.reset) :
    action ∈ actions ∧ (action ∈ transmitActions → r.ready h = true) := by
  have mem := mem_menu listed other
  simp only [List.mem_append] at mem
  rcases mem with ((list | transmits) | add) | remove
  · rw [List.mem_singleton.mp list]
    exact ⟨by decide, fun transmits => absurd transmits (by decide)⟩
  · split at transmits
    · next usable =>
        exact ⟨List.mem_append_right _ transmits, fun _ => (Bool.and_eq_true_iff.mp usable).1⟩
    · cases transmits
  · rw [List.mem_singleton.mp add]
    exact ⟨by decide, fun transmits => absurd transmits (by decide)⟩
  · split at remove
    · rw [List.mem_singleton.mp remove]
      exact ⟨by decide, fun transmits => absurd transmits (by decide)⟩
    · cases remove

theorem currentMenu_execute (action switch : String) (on : Bool) :
    CurrentMenu commands ((r.execute h action switch on).1, r, (r.execute h action switch on).2) := by
  rw [execute]
  split
  · exact rfl
  · split
    · exact rfl
    · exact rfl

theorem currentMenu_switchTo (action : String) (on : Bool) (data : Option String) :
    CurrentMenu commands (r.switchTo h action on data) := by
  rw [switchTo]
  split
  · exact rfl
  · simp only [Negotiator.negotiate]
    split
    · exact currentMenu_execute _ _ _
    · exact rfl
    · exact rfl

theorem currentMenu_allOff : CurrentMenu commands ((r.allOff h).1, r, (r.allOff h).2) := by
  rw [allOff]
  split
  · exact rfl
  · dsimp only
    split
    · exact rfl
    · exact rfl

theorem currentMenu_add (data : Option String) : CurrentMenu commands (r.add h data) := by
  rw [add]
  simp only [Negotiator.negotiate]
  split
  · exact rfl
  · exact rfl
  · exact iteInduction (fun _ => rfl) fun _ => rfl

theorem currentMenu_remove (data : Option String) : CurrentMenu commands (r.remove h data) := by
  rw [remove]
  simp only [Negotiator.negotiate]
  split
  · exact rfl
  · exact rfl
  · exact iteInduction (fun _ => rfl) fun _ => rfl

theorem currentMenu_process (r : RfSwitch) (p : Payload) (h : Hardware R D) :
    CurrentMenu commands (r.process p h) := by
  rw [process]
  split
  · exact rfl
  · exact rfl
  · exact rfl
  · exact currentMenu_switchTo _ _ _
  · exact currentMenu_switchTo _ _ _
  · exact currentMenu_allOff
  · exact currentMenu_add _
  · exact currentMenu_remove _
  · exact rfl

end RfSwitch

namespace ZigBee

/-- What the protocol can be asked, apart from a ping and a reset. -/
def actions : List String :=
  ["ListDevices", "PermitJoin", "On", "Off", "SetLevel", "Identify"]

def stray (z : ZigBee) (h : Hardware R D) (action : String) : Payload :=
  z.reply h action ("Unknown action: " ++ action)

variable {z : ZigBee} {h : Hardware R D}

theorem content_unavailable_ne (action : String) :
    (z.unavailable h action).content ≠ (z.stray h action).content := by
  have off := Text.first_append (c := 'Z') (a := "ZigBee dongle unavailable; ") (by decide) action
  exact Payload.content_ne_of_first rfl rfl (Text.first_append off _) (first_unknown action) (by decide)

theorem content_list_ne : (z.list h).1.content ≠ (z.stray h "ListDevices").content := by
  rw [list]
  split
  case isTrue => exact content_unavailable_ne _
  case isFalse =>
    rw [execute]
    split
    · have done : Text.first "Executing ListDevices…" = some 'E' := by decide
      exact Payload.content_ne_of_first rfl rfl done (first_unknown _) (by decide)
    · have off := Text.first_append (c := 'Z') (a := "ZigBee dongle unavailable: ") (by decide)
      exact Payload.content_ne_of_first rfl rfl (off _) (first_unknown _) (by decide)

theorem content_withArguments_ne {α : Type} [CommandArguments α] {action : String}
    (schema : ArgumentSchema) (run : ZigBee → α → Payload × Hardware R D)
    (other : action ≠ Action.commandInfo) :
    (z.withArguments h action none schema run).1.content ≠ (z.stray h action).content := by
  rw [withArguments]
  split
  case isTrue => exact content_unavailable_ne action
  case isFalse => exact Payload.content_ne_of_action rfl rfl (Ne.symm other)

/-- Without data, no action of the protocol is answered as an unknown one. -/
theorem content_process_ne {action : String} (known : action ∈ actions) :
    (z.process (.request action) h).1.content ≠ (z.stray h action).content := by
  simp only [actions, List.mem_cons, List.not_mem_nil, or_false] at known
  rcases known with rfl | rfl | rfl | rfl | rfl | rfl
  · exact content_list_ne
  · have dispatch : z.process (.request "PermitJoin") h =
        z.permitJoin h none := rfl
    rw [dispatch, permitJoin]
    exact content_withArguments_ne _ _ (by decide)
  · have dispatch : z.process (.request "On") h =
        z.deviceAction h "On" "Switch a device on" none (.setOnOff · true) := rfl
    rw [dispatch, deviceAction]
    exact content_withArguments_ne _ _ (by decide)
  · have dispatch : z.process (.request "Off") h =
        z.deviceAction h "Off" "Switch a device off" none (.setOnOff · false) := rfl
    rw [dispatch, deviceAction]
    exact content_withArguments_ne _ _ (by decide)
  · have dispatch : z.process (.request "SetLevel") h =
        z.setLevel h none := rfl
    rw [dispatch, setLevel]
    exact content_withArguments_ne _ _ (by decide)
  · have dispatch : z.process (.request "Identify") h =
        z.deviceAction h "Identify" "Make a device blink" none .identify := rfl
    rw [dispatch, deviceAction]
    exact content_withArguments_ne _ _ (by decide)

theorem process_of_unknown {p : Payload} (noPing : p.effectiveAction ≠ Action.ping)
    (noReset : p.effectiveAction ≠ Action.reset) (unknown : p.effectiveAction ∉ actions) :
    (z.process p h).1 = z.stray h p.effectiveAction := by
  simp only [actions, List.mem_cons, List.not_mem_nil, or_false, not_or] at unknown
  obtain ⟨list, join, on, off, level, identify⟩ := unknown
  rw [process]
  split
  · next action => exact absurd action noPing
  · next action => exact absurd action noReset
  · next action => exact absurd action list
  · next action => exact absurd action join
  · next action => exact absurd action on
  · next action => exact absurd action off
  · next action => exact absurd action identify
  · next action => exact absurd action level
  · rfl

theorem mem_commands {action : String} (listed : action ∈ z.commands h)
    (other : action ≠ Action.reset) : action ∈ actions ∧ z.ready h = true := by
  have mem := mem_menu listed other
  split at mem
  · next usable => exact ⟨mem, usable⟩
  · cases mem

theorem currentMenu_process (z : ZigBee) (p : Payload) (h : Hardware R D) :
    CurrentMenu commands (z.process p h) := by
  have turn := zigBeeTurn_process z p h
  generalize z.process p h = result at turn ⊢
  cases turn with
  | told _ menu => exact menu
  | queued _ _ _ _ menu => exact menu
  | restarted menu => exact menu

end ZigBee

namespace Device

/-- The menu of a protocol. -/
def commands (d : Device) (h : Hardware R D) : List String :=
  match d with
  | knockKnock k => k.commands
  | rfSwitch r => r.commands h
  | zigBee z => z.commands h

/-- Tells whether a protocol knows an action that is neither a ping nor a reset. -/
def knows (d : Device) (action : String) : Bool :=
  match d with
  | knockKnock k => k.follows action
  | rfSwitch _ => RfSwitch.actions.contains action
  | zigBee _ => ZigBee.actions.contains action

/-- The reply of a protocol to an action that it does not know. -/
def stray (d : Device) (h : Hardware R D) (action : String) : Payload :=
  match d with
  | knockKnock k => k.stray action
  | rfSwitch r => r.stray h action
  | zigBee z => z.stray h action

theorem action_stray (d : Device) (h : Hardware R D) (action : String) :
    (d.stray h action).action = some action := by
  cases d with
  | knockKnock k =>
      rw [stray, KnockKnock.stray]
      cases k.state <;> rfl
  | rfSwitch r => rfl
  | zigBee z => rfl

theorem currentMenu_process (d : Device) (p : Payload) (h : Hardware R D) :
    CurrentMenu commands (d.process p h) := by
  cases d with
  | knockKnock k => exact k.commands_process p
  | rfSwitch r => exact r.currentMenu_process p h
  | zigBee z => exact z.currentMenu_process p h

theorem process_of_unknown {d : Device} {p : Payload} (h : Hardware R D)
    (noPing : p.effectiveAction ≠ Action.ping) (noReset : p.effectiveAction ≠ Action.reset)
    (unknown : d.knows p.effectiveAction = false) :
    (d.process p h).1 = d.stray h p.effectiveAction := by
  cases d with
  | knockKnock k =>
      have line := KnockKnock.process_of_line (k := k) noPing noReset
      exact (congrArg Prod.fst line).trans (KnockKnock.reply_of_not_follows unknown)
  | rfSwitch r =>
      refine RfSwitch.process_of_unknown noPing noReset fun mem => ?_
      exact Bool.eq_false_iff.mp unknown (List.contains_iff_mem.mpr mem)
  | zigBee z =>
      refine ZigBee.process_of_unknown noPing noReset fun mem => ?_
      exact Bool.eq_false_iff.mp unknown (List.contains_iff_mem.mpr mem)

theorem content_process_ne {d : Device} {action : String} (h : Hardware R D)
    (noPing : action ≠ Action.ping) (noReset : action ≠ Action.reset) (known : d.knows action = true) :
    (d.process (.request action) h).1.content ≠ (d.stray h action).content := by
  cases d with
  | knockKnock k =>
      have line := KnockKnock.process_of_line (k := k) (p := .request action) noPing noReset
      have same : (Device.process (.knockKnock k) (.request action) h).1 = (k.reply action).1 :=
        congrArg Prod.fst line
      rw [same]
      exact KnockKnock.content_reply_ne known
  | rfSwitch r => exact RfSwitch.content_process_ne (List.contains_iff_mem.mp known)
  | zigBee z => exact ZigBee.content_process_ne (List.contains_iff_mem.mp known)

/-- What the menu of a protocol lists it knows. -/
theorem knows_of_mem_commands {d : Device} {h : Hardware R D} {action : String}
    (listed : action ∈ d.commands h) (other : action ≠ Action.reset) : d.knows action = true := by
  cases d with
  | knockKnock k => exact KnockKnock.follows_of_mem_commands listed other
  | rfSwitch r => exact List.contains_iff_mem.mpr (RfSwitch.mem_commands listed other).1
  | zigBee z => exact List.contains_iff_mem.mpr (ZigBee.mem_commands listed other).1

/-- What the jokes list is neither a ping nor an action of the other protocols. -/
theorem knockKnock_apart {k : KnockKnock} {action : String} (listed : action ∈ k.commands) :
    action ∉ Action.ping :: (transmitActions ++ ZigBee.actions) := by
  have questions : ∀ joke ∈ ("", "") :: jokes,
      joke.1 ++ " who?" ∉ Action.ping :: (transmitActions ++ ZigBee.actions) := by
    decide +kernel
  by_cases resets : action = Action.reset
  · subst resets
    decide
  · rw [KnockKnock.commands] at listed
    cases state : k.state with
    | waiting =>
        rw [state] at listed
        rw [List.mem_singleton.mp (mem_menu listed resets)]
        decide
    | knocked =>
        rw [state] at listed
        rw [List.mem_singleton.mp (mem_menu listed resets)]
        decide
    | gaveClue =>
        rw [state] at listed
        rw [List.mem_singleton.mp (mem_menu listed resets)]
        exact questions _ k.joke_mem
    | askedAgain =>
        rw [state] at listed
        have either := mem_menu listed resets
        simp only [List.mem_cons, List.not_mem_nil, or_false] at either
        rcases either with rfl | rfl
        · decide
        · decide

theorem ping_notMem_commands (d : Device) (h : Hardware R D) : Action.ping ∉ d.commands h := by
  intro listed
  cases d with
  | knockKnock k => exact knockKnock_apart listed List.mem_cons_self
  | rfSwitch r => exact absurd (RfSwitch.mem_commands listed (by decide)).1 (by decide)
  | zigBee z => exact absurd (ZigBee.mem_commands listed (by decide)).1 (by decide)

theorem radio_of_mem_commands {d : Device} {h : Hardware R D} {action : String}
    (listed : action ∈ d.commands h) (transmits : action ∈ transmitActions) :
    ∃ r, d = .rfSwitch r ∧ r.ready h = true := by
  have other : action ≠ Action.reset := fun same => absurd (same ▸ transmits) (by decide)
  cases d with
  | knockKnock k =>
      exact absurd (List.mem_cons_of_mem _ (List.mem_append_left _ transmits)) (knockKnock_apart listed)
  | rfSwitch r => exact ⟨r, rfl, (RfSwitch.mem_commands listed other).2 transmits⟩
  | zigBee z =>
      have apart : ∀ action ∈ ZigBee.actions, action ∉ transmitActions := by decide
      exact absurd transmits (apart _ (ZigBee.mem_commands listed other).1)

theorem dongle_of_mem_commands {d : Device} {h : Hardware R D} {action : String}
    (listed : action ∈ d.commands h) (performs : action ∈ ZigBee.actions) :
    ∃ z, d = .zigBee z ∧ z.ready h = true := by
  have other : action ≠ Action.reset := fun same => absurd (same ▸ performs) (by decide)
  cases d with
  | knockKnock k =>
      exact absurd (List.mem_cons_of_mem _ (List.mem_append_right _ performs)) (knockKnock_apart listed)
  | rfSwitch r =>
      have apart : ∀ action ∈ RfSwitch.actions, action ∉ ZigBee.actions := by decide
      exact absurd performs (apart _ (RfSwitch.mem_commands listed other).1)
  | zigBee z => exact ⟨z, rfl, (ZigBee.mem_commands listed other).2⟩

end Device

namespace DeviceConfig

variable {config : DeviceConfig}

/-- The ways to build that a registry can have. -/
inductive Offered (config : DeviceConfig) : Registration (Hardware R D) Device → Prop
  | knockKnock : Offered config ⟨"KnockKnock", fun _ h => .ok (.knockKnock {}, h)⟩
  | rfSwitch : Offered config ⟨"RfSwitch", Device.startRfSwitch config.rf⟩
  | zigBee : Offered config ⟨"ZigBee", Device.startZigBee config.zigbee⟩

theorem offered_of_mem {entry : Registration (Hardware R D) Device}
    (mem : entry ∈ config.registry.entries) : Offered config entry := by
  have entries : (config.registry (R := R) (D := D)).entries =
      ⟨"KnockKnock", fun _ h => .ok (.knockKnock {}, h)⟩ ::
        ((if config.rf.enabled then [⟨"RfSwitch", Device.startRfSwitch config.rf⟩] else []) ++
          if config.zigbee.enabled then [⟨"ZigBee", Device.startZigBee config.zigbee⟩] else []) := by
    rw [registry]
    cases config.rf.enabled with
    | false => cases config.zigbee.enabled <;> rfl
    | true => cases config.zigbee.enabled <;> rfl
  rw [entries] at mem
  rcases List.mem_cons.mp mem with rfl | others
  · exact .knockKnock
  · rcases List.mem_append.mp others with rf | zigBee
    · split at rf
      · rw [List.mem_singleton.mp rf]
        exact .rfSwitch
      · cases rf
    · split at zigBee
      · rw [List.mem_singleton.mp zigBee]
        exact .zigBee
      · cases zigBee

theorem mem_selectors {selector : String}
    (mem : selector ∈ (config.registry (R := R) (D := D)).selectors) :
    selector ∈ ["KnockKnock", "RfSwitch", "ZigBee"] := by
  obtain ⟨entry, registered, rfl⟩ := List.mem_map.mp mem
  cases offered_of_mem registered with
  | knockKnock => exact List.mem_cons_self
  | rfSwitch => exact List.mem_cons_of_mem _ List.mem_cons_self
  | zigBee => exact List.mem_cons_of_mem _ (List.mem_cons_of_mem _ List.mem_cons_self)

/-- Whatever is built is built in a way that the registry has. -/
theorem offered_of_build {selector name : String} {h : Hardware R D} {result : Device × Hardware R D}
    (built : config.registry.build selector name h = .ok result) :
    ∃ entry, Offered config entry ∧ entry.selector = selector ∧ entry.build name h = .ok result := by
  rw [Registry.build] at built
  split at built
  · next entry found =>
      have named := List.find?_some found
      exact ⟨entry, offered_of_mem (List.mem_of_find?_eq_some found), beq_iff_eq.mp named, built⟩
  · cases built

end DeviceConfig

end Switchboard
