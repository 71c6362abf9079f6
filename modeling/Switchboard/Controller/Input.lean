import Switchboard.Text.Blank
import Switchboard.Decimal.Integer

/-!
What a line typed at the controller means: a local command, the number of an action on the menu, or an
action by name.
-/

namespace Switchboard

inductive Input
  | empty
  | help
  /-- Shows the replies of a protocol, or of the current one. -/
  | history (key : Option String)
  | reconnect
  | clear
  | quit
  | action (name : String)
  deriving DecidableEq, Repr

namespace Input

/-- The local command that the first word of a line names. -/
def command? (head : String) (more : List String) : Option Input :=
  match Text.lowerAscii head with
  | "help" => some help
  | "history" => some (history more.head?)
  | "reconnect" => some reconnect
  | "clear" => some clear
  | "quit" => some quit
  | "exit" => some quit
  | _ => none

/-- The action of a number on the menu, or of a name. -/
def ofMenu (line : String) (menu : List String) : Input :=
  match Decimal.unsigned? 64 line with
  | none => action line
  | some 0 => action line
  | some (n + 1) => action (menu[n]?.getD line)

/-- Reads a line against the menu that was shown last. -/
def parse (line : String) (menu : List String) : Input :=
  let line := Text.trim line
  match Text.words line with
  | [] => empty
  | head :: more => (command? head more).getD (ofMenu line menu)

end Input

/-- The actions of a list with semicolons between them; blank ones are left out. -/
def splitActions (command : String) : List String :=
  ((command.splitOn ";").map Text.trim).filter (· != "")

end Switchboard
