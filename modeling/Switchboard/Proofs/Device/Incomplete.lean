import Switchboard.Device.RfSwitch
import Switchboard.Device.ZigBee
import Switchboard.Proofs.Argument.Schema

/-!
Requests that do not complete the arguments of their action. They change nothing but the note of the command
that waits for arguments. While the hardware that the action needs is there, the reply asks by the schema of
the action with the default of the moment, or says that the data could not be read, and the same request gets
the same reply again.
-/

namespace Switchboard

/-- Data that is not blank and holds no arguments that can be read. -/
def Unreadable (data : Option String) : Prop :=
  ∃ text, data.map Text.trim = some text ∧ text ≠ "" ∧
    ∃ failure, ArgumentValues.parse text = .error failure

namespace Negotiation

variable {α : Type} [CommandArguments α] {data : Option String} {schema : ArgumentSchema}

theorem outcome_of_not_ready (incomplete : ∀ arguments : α, negotiate data schema ≠ .ready arguments) :
    (Unreadable data ∧ ∃ reason, negotiate (α := α) data schema = .malformed reason) ∨
      (¬Unreadable data ∧ negotiate (α := α) data schema = .challenge schema) := by
  rw [negotiate] at incomplete ⊢
  cases trimmed : data.map Text.trim with
  | none =>
      refine .inr ⟨?_, rfl⟩
      rintro ⟨text, given, -⟩
      rw [trimmed] at given
      cases given
  | some text =>
      rw [trimmed, Option.filter_some] at incomplete
      rw [Option.filter_some]
      by_cases blank : text = ""
      · subst blank
        refine .inr ⟨?_, rfl⟩
        rintro ⟨text, given, solid, -⟩
        rw [trimmed, Option.some.injEq] at given
        exact solid given.symm
      · have solid : (text != "") = true := bne_iff_ne.mpr blank
        rw [if_pos solid] at incomplete ⊢
        dsimp only [ofData] at incomplete ⊢
        cases parsed : ArgumentValues.parse text with
        | error failure => exact .inl ⟨⟨text, trimmed, blank, failure, parsed⟩, _, rfl⟩
        | ok values =>
            rw [parsed] at incomplete
            dsimp only at incomplete ⊢
            refine .inr ⟨?_, ?_⟩
            · rintro ⟨other, given, -, failure, unread⟩
              rw [trimmed, Option.some.injEq] at given
              rw [← given, parsed] at unread
              cases unread
            · cases made : CommandArguments.ofValues (α := α) values with
              | ok arguments =>
                  rw [made] at incomplete
                  exact absurd rfl (incomplete arguments)
              | error reason => rfl

end Negotiation

/-- An action that takes arguments, of a protocol in `P` that acts on `W`. -/
structure ArgumentAction (P W : Type) where
  name : String
  Arguments : Type
  [taken : CommandArguments Arguments]
  /-- What asks for the arguments, with the default of the moment. -/
  schema : P → W → ArgumentSchema
  /-- Tells whether the hardware that the action needs is there. -/
  available : P → W → Bool

namespace ArgumentAction

variable {P W : Type}

attribute [instance] ArgumentAction.taken

def Incomplete (a : ArgumentAction P W) (p : P) (w : W) (data : Option String) : Prop :=
  ∀ arguments : a.Arguments, Negotiation.negotiate data (a.schema p w) ≠ .ready arguments

/-- What comes of a request whose data is incomplete, whichever command waited for arguments before. -/
inductive Withheld (a : ArgumentAction P W) (noted : P → Negotiator → P) (p : P) (w : W)
    (data : Option String) (run : P → Payload × P × W) : Prop
  | disabled (reply : Payload) :
    a.available p w = false → (∀ before, run (noted p before) = (reply, noted p before, w)) →
      Withheld a noted p w data run
  | asked (key : String) (commands : List String) (after : Negotiator) :
    ¬Unreadable data →
    (∀ before, run (noted p before) = ((a.schema p w).challenge key commands, noted p after, w)) →
      Withheld a noted p w data run
  | unread (reply : Payload) (after : Negotiator) :
    Unreadable data → reply.action = some a.name →
    (∀ before, run (noted p before) = (reply, noted p after, w)) →
      Withheld a noted p w data run

/-- What a protocol keeps to when a request does not complete the arguments of its action. -/
structure Refuses (a : ArgumentAction P W) (noted : P → Negotiator → P) (p : P) (w : W)
    (data : Option String) (run : P → W → Payload × P × W) : Prop where
  /-- Nothing is queued, and nothing that is known of switches or devices changes. -/
  unchanged : ∃ after, (run p w).2 = (noted p after, w)
  asked : a.available p w = true → ¬Unreadable data →
    (run p w).1.isCommandInfo = true ∧
      ∃ json, (run p w).1.data = some json ∧ ArgumentSchema.ofJson json = .ok (a.schema p w)
  unread : a.available p w = true → Unreadable data →
    (run p w).1.action = some a.name ∧ (run p w).1.isCommandInfo = false
  repeated : (run (run p w).2.1 (run p w).2.2).1 = (run p w).1

theorem Withheld.refuses {a : ArgumentAction P W} {noted : P → Negotiator → P} {p : P} {w : W}
    {data : Option String} {run : P → W → Payload × P × W}
    (withheld : a.Withheld noted p w data (run · w)) (named : a.name ≠ Action.commandInfo)
    (own : ∃ before, noted p before = p) : a.Refuses noted p w data run := by
  obtain ⟨before, same⟩ := own
  cases withheld with
  | disabled reply off run_eq =>
      have first := run_eq before
      rw [same] at first
      refine ⟨⟨before, by rw [first, same]⟩, ?_, ?_, by rw [first]; exact congrArg Prod.fst first⟩
      · intro available
        rw [available] at off
        cases off
      · intro available
        rw [available] at off
        cases off
  | asked key commands after readable run_eq =>
      have first := run_eq before
      rw [same] at first
      refine ⟨⟨after, by rw [first]⟩, ?_, fun _ unreadable => absurd unreadable readable, ?_⟩
      · intro _ _
        rw [first]
        exact ⟨rfl, _, rfl, ArgumentSchema.ofJson_toJson _⟩
      · rw [first]
        exact congrArg Prod.fst (run_eq after)
  | unread reply after unreadable said run_eq =>
      have first := run_eq before
      rw [same] at first
      refine ⟨⟨after, by rw [first]⟩, fun _ readable => absurd unreadable readable, ?_, ?_⟩
      · intro _ _
        rw [first]
        refine ⟨said, ?_⟩
        rw [Payload.isCommandInfo, said]
        exact beq_eq_false_iff_ne.mpr fun same => named (Option.some.inj same)
      · rw [first]
        exact congrArg Prod.fst (run_eq after)

end ArgumentAction

variable {R D : Type}

namespace RfSwitch

def note (r : RfSwitch) (negotiator : Negotiator) : RfSwitch :=
  { r with negotiator }

/-- An action on one switch of the table. -/
def switchAction (action description : String) (available : RfSwitch → Hardware R D → Bool) :
    ArgumentAction RfSwitch (Hardware R D) where
  name := action
  Arguments := SwitchArguments
  schema r h := SwitchArguments.schemaFor action description (r.defaultSwitch h)
  available := available

def addAction : ArgumentAction RfSwitch (Hardware R D) where
  name := "AddSwitch"
  Arguments := AddSwitchArguments
  schema _ _ := CommandArguments.schema AddSwitchArguments
  available _ _ := true

def argumentActions : List (ArgumentAction RfSwitch (Hardware R D)) := [
  switchAction "SwitchOn" "Turn a switch on" ready,
  switchAction "SwitchOff" "Turn a switch off" ready,
  addAction,
  switchAction "RemoveSwitch" "Forget a switch" fun _ _ => true]

variable {r : RfSwitch} {h : Hardware R D} {data : Option String}

@[simp] theorem ready_note (n : Negotiator) : (r.note n).ready h = r.ready h := rfl

@[simp] theorem defaultSwitch_note (n : Negotiator) :
    (r.note n).defaultSwitch h = r.defaultSwitch h := rfl

@[simp] theorem reply_note (n : Negotiator) : (r.note n).reply h = r.reply h := rfl

theorem withheld_switchTo {action description : String} {on : Bool}
    (described : (if on then "Turn a switch on" else "Turn a switch off") = description)
    (incomplete : ∀ arguments : SwitchArguments, Negotiation.negotiate data
      (SwitchArguments.schemaFor action description (r.defaultSwitch h)) ≠ .ready arguments) :
    (switchAction action description ready).Withheld note r h data (·.switchTo h action on data) := by
  subst described
  cases usable : r.ready h with
  | false =>
      refine .disabled (r.reply h action ("RF radio unavailable; " ++ action ++ " is disabled")) usable ?_
      intro before
      simp only [switchTo, ready_note, usable, Bool.not_false, if_true, reply_note]
  | true =>
      obtain ⟨unread, reason, outcome⟩ | ⟨readable, outcome⟩ :=
        Negotiation.outcome_of_not_ready incomplete
      · refine .unread (r.reply h action reason) {} unread rfl fun before => ?_
        simp only [switchTo, ready_note, usable, Negotiator.negotiate, defaultSwitch_note, outcome]
        rfl
      · refine .asked rfSwitchKey (r.commands h) ⟨some action⟩ readable fun before => ?_
        simp only [switchTo, ready_note, usable, Negotiator.negotiate, defaultSwitch_note, outcome]
        rfl

theorem withheld_add
    (incomplete : ∀ arguments : AddSwitchArguments, Negotiation.negotiate data
      (CommandArguments.schema AddSwitchArguments) ≠ .ready arguments) :
    addAction.Withheld note r h data (·.add h data) := by
  obtain ⟨unread, reason, outcome⟩ | ⟨readable, outcome⟩ :=
    Negotiation.outcome_of_not_ready incomplete
  · refine .unread (r.reply h "AddSwitch" reason) {} unread rfl fun before => ?_
    simp only [add, Negotiator.negotiate, outcome]
    rfl
  · refine .asked rfSwitchKey (r.commands h) ⟨some "AddSwitch"⟩ readable fun before => ?_
    simp only [add, Negotiator.negotiate, outcome]
    rfl

theorem withheld_remove
    (incomplete : ∀ arguments : SwitchArguments, Negotiation.negotiate data
      (SwitchArguments.schemaFor "RemoveSwitch" "Forget a switch" (r.defaultSwitch h)) ≠
        .ready arguments) :
    (switchAction "RemoveSwitch" "Forget a switch" fun _ _ => true).Withheld note r h data
      (·.remove h data) := by
  obtain ⟨unread, reason, outcome⟩ | ⟨readable, outcome⟩ :=
    Negotiation.outcome_of_not_ready incomplete
  · refine .unread (r.reply h "RemoveSwitch" reason) {} unread rfl fun before => ?_
    simp only [remove, defaultSwitch_note, Negotiator.negotiate, outcome]
    rfl
  · refine .asked rfSwitchKey (r.commands h) ⟨some "RemoveSwitch"⟩ readable fun before => ?_
    simp only [remove, defaultSwitch_note, Negotiator.negotiate, outcome]
    rfl

theorem refuses_process {a : ArgumentAction RfSwitch (Hardware R D)} (listed : a ∈ argumentActions)
    {request : Payload} (named : request.effectiveAction = a.name)
    (incomplete : a.Incomplete r h request.data) :
    a.Refuses note r h request.data fun r h => r.process request h := by
  have own : ∃ before, r.note before = r := ⟨r.negotiator, rfl⟩
  have apart : a.name ≠ Action.commandInfo := by
    intro same
    have listed : a.name ∈ ["SwitchOn", "SwitchOff", "AddSwitch", "RemoveSwitch"] :=
      List.mem_map_of_mem listed
    rw [same] at listed
    revert listed
    decide
  simp only [argumentActions, List.mem_cons, List.not_mem_nil, or_false] at listed
  rcases listed with rfl | rfl | rfl | rfl
  all_goals refine ArgumentAction.Withheld.refuses ?_ apart own
  · have named : request.effectiveAction = "SwitchOn" := named
    simp only [process, named]
    exact withheld_switchTo rfl incomplete
  · have named : request.effectiveAction = "SwitchOff" := named
    simp only [process, named]
    exact withheld_switchTo rfl incomplete
  · have named : request.effectiveAction = "AddSwitch" := named
    simp only [process, named]
    exact withheld_add incomplete
  · have named : request.effectiveAction = "RemoveSwitch" := named
    simp only [process, named]
    exact withheld_remove incomplete

end RfSwitch

namespace ZigBee

def note (z : ZigBee) (negotiator : Negotiator) : ZigBee :=
  { z with negotiator }

def joinAction : ArgumentAction ZigBee (Hardware R D) where
  name := "PermitJoin"
  Arguments := JoinArguments
  schema _ _ := CommandArguments.schema JoinArguments
  available := ready

/-- An action on one device of the network. -/
def deviceCommand (action description : String) : ArgumentAction ZigBee (Hardware R D) where
  name := action
  Arguments := DeviceArguments
  schema z h := DeviceArguments.schemaFor action description (z.defaultDevice h false)
  available := ready

def levelAction : ArgumentAction ZigBee (Hardware R D) where
  name := "SetLevel"
  Arguments := LevelArguments
  schema z h := LevelArguments.schemaFor (z.defaultDevice h true)
  available := ready

def argumentActions : List (ArgumentAction ZigBee (Hardware R D)) := [
  joinAction,
  deviceCommand "On" "Switch a device on",
  deviceCommand "Off" "Switch a device off",
  deviceCommand "Identify" "Make a device blink",
  levelAction]

variable {z : ZigBee} {h : Hardware R D} {data : Option String}

@[simp] theorem ready_note (n : Negotiator) : (z.note n).ready h = z.ready h := rfl

@[simp] theorem defaultDevice_note (n : Negotiator) :
    (z.note n).defaultDevice h = z.defaultDevice h := rfl

@[simp] theorem unavailable_note (n : Negotiator) : (z.note n).unavailable h = z.unavailable h := rfl

theorem withheld_withArguments {α : Type} [CommandArguments α] {name : String}
    {schema : ZigBee → Hardware R D → ArgumentSchema}
    (run : ZigBee → ZigBee → α → Payload × Hardware R D)
    (incomplete : ∀ arguments : α, Negotiation.negotiate data (schema z h) ≠ .ready arguments)
    (fixed : ∀ before, schema (z.note before) h = schema z h) :
    ArgumentAction.Withheld { name, Arguments := α, schema, available := ready } note z h data
      fun z => z.withArguments h name data (schema z h) (run z) := by
  cases usable : z.ready h with
  | false =>
      refine .disabled (z.unavailable h name) usable fun before => ?_
      simp only [withArguments, ready_note, usable, Bool.not_false, if_true, unavailable_note]
  | true =>
      obtain ⟨unread, reason, outcome⟩ | ⟨readable, outcome⟩ :=
        Negotiation.outcome_of_not_ready incomplete
      · refine .unread (z.reply h name reason) {} unread rfl fun before => ?_
        simp only [withArguments, ready_note, usable, Negotiator.negotiate, fixed, outcome]
        rfl
      · refine .asked zigBeeKey (z.commands h) ⟨some (schema z h).command⟩ readable fun before => ?_
        simp only [withArguments, ready_note, usable, Negotiator.negotiate, fixed, outcome]
        rfl

theorem refuses_process {a : ArgumentAction ZigBee (Hardware R D)} (listed : a ∈ argumentActions)
    {request : Payload} (named : request.effectiveAction = a.name)
    (incomplete : a.Incomplete z h request.data) :
    a.Refuses note z h request.data fun z h => z.process request h := by
  have own : ∃ before, z.note before = z := ⟨z.negotiator, rfl⟩
  have apart : a.name ≠ Action.commandInfo := by
    intro same
    have listed : a.name ∈ ["PermitJoin", "On", "Off", "Identify", "SetLevel"] :=
      List.mem_map_of_mem listed
    rw [same] at listed
    revert listed
    decide
  simp only [argumentActions, List.mem_cons, List.not_mem_nil, or_false] at listed
  rcases listed with rfl | rfl | rfl | rfl | rfl
  all_goals refine ArgumentAction.Withheld.refuses ?_ apart own
  · have named : request.effectiveAction = "PermitJoin" := named
    simp only [process, named]
    exact withheld_withArguments _ incomplete fun _ => rfl
  · have named : request.effectiveAction = "On" := named
    simp only [process, named]
    exact withheld_withArguments _ incomplete fun _ => rfl
  · have named : request.effectiveAction = "Off" := named
    simp only [process, named]
    exact withheld_withArguments _ incomplete fun _ => rfl
  · have named : request.effectiveAction = "Identify" := named
    simp only [process, named]
    exact withheld_withArguments _ incomplete fun _ => rfl
  · have named : request.effectiveAction = "SetLevel" := named
    simp only [process, named]
    exact withheld_withArguments _ incomplete fun _ => rfl

end ZigBee

/-- Requests without complete arguments are never executed, in any state of the two protocols. -/
structure ArgumentGuard (R D : Type) : Prop where
  rfSwitch : ∀ a ∈ RfSwitch.argumentActions (R := R) (D := D), ∀ r h request,
    request.effectiveAction = a.name → a.Incomplete r h request.data →
      a.Refuses RfSwitch.note r h request.data fun r h => r.process request h
  zigBee : ∀ a ∈ ZigBee.argumentActions (R := R) (D := D), ∀ z h request,
    request.effectiveAction = a.name → a.Incomplete z h request.data →
      a.Refuses ZigBee.note z h request.data fun z h => z.process request h

theorem argument_guard (R D : Type) : ArgumentGuard R D := by
  refine ⟨?_, ?_⟩
  · intro a listed r h request named incomplete
    exact RfSwitch.refuses_process listed named incomplete
  · intro a listed z h request named incomplete
    exact ZigBee.refuses_process listed named incomplete

end Switchboard
