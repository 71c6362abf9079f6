/-!
The message that controllers and the server exchange. A missing field differs from an empty one, and a
message without action asks for the status, as a ping does.
-/

namespace Switchboard

namespace Action

def ping : String := "Ping"

/-- Returns to the initial state; always a legal next action. -/
def reset : String := "Reset"

def chooser : String := "Chooser"

def resetCurrent : String := "ResetCurrent"

/-- Marks a message that asks for arguments; its data holds their schema. -/
def commandInfo : String := "CommandInfo"

end Action

def goodbye : String := "Bye."

structure Payload where
  /-- The key of the protocol that owns the message. -/
  key : String := ""
  action : Option String := none
  data : Option String := none
  response : Option String := none
  /-- The actions that are legal next, in menu order. -/
  commands : List String := []
  deriving DecidableEq, Repr, Inhabited

namespace Payload

/-- A request for an action, addressed to no protocol yet. -/
def request (action : String) : Payload :=
  { action := some action }

def ping : Payload :=
  request Action.ping

/-- The action, where none means a ping. -/
def effectiveAction (p : Payload) : String :=
  p.action.getD Action.ping

def isPing (p : Payload) : Bool :=
  p.effectiveAction == Action.ping

def isCommandInfo (p : Payload) : Bool :=
  p.action == some Action.commandInfo

/-- Holds of the message after which the connection is closed. -/
def isTerminal (p : Payload) : Bool :=
  p.response == some goodbye

def offers (p : Payload) (action : String) : Bool :=
  p.commands.contains action

end Payload

/-- The menu of some actions: `Reset` comes last and nowhere else. -/
def menu (actions : List String) : List String :=
  actions.filter (· != Action.reset) ++ [Action.reset]

theorem getLast?_menu (actions : List String) : (menu actions).getLast? = some Action.reset := by
  simp [menu]

theorem count_reset_menu (actions : List String) : (menu actions).count Action.reset = 1 := by
  simp [menu, List.count_append, List.count_eq_zero]

end Switchboard
