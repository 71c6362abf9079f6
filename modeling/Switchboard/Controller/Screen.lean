import Switchboard.Controller.Style
import Switchboard.Session.Connecting
import Switchboard.Decimal.Integer
import Switchboard.Router.Basic

/-!
What the controller prints. A message with a menu is shown with its actions numbered, and that menu stays
in force until another is shown; a request for arguments and a notice without menu leave it alone.
-/

namespace Switchboard

/-- What the user sees: the menu in force and the protocol that speaks. -/
structure Screen where
  colours : Bool
  menu : List String := []
  current : String := routerKey
  deriving DecidableEq, Repr

namespace Screen

def line (text : String) : String :=
  text ++ "\n"

/-- The line of the data of a message, if it has any. -/
def dataLine (s : Screen) (p : Payload) : String :=
  match p.data with
  | none => ""
  | some data => line ("    " ++ Style.faint.paint s.colours data)

/-- The lines of a menu, numbered from one. -/
def menuLines (s : Screen) (actions : List String) : String :=
  String.join (actions.zipIdx.map fun (action, i) =>
    line ("  " ++ (Style.coloured .cyan).paint s.colours (Decimal.padLeft 2 (i + 1) ++ ")") ++ " " ++ action))

/-- The first lines of a message: its key and its response in a style. -/
def headline (s : Screen) (p : Payload) (style : Style) : String :=
  line (Style.faint.paint s.colours ("[" ++ p.key ++ "]") ++ " " ++
    style.paint s.colours (p.response.getD ""))

def bringsMenu (p : Payload) : Bool :=
  !p.isCommandInfo && (p.isTerminal || !p.commands.isEmpty)

def render (s : Screen) (p : Payload) : String × Screen :=
  if p.isCommandInfo then
    (s.headline p (.coloured .yellow), { s with current := p.key })
  else if bringsMenu p then
    let style := if p.isTerminal then Style.strong .magenta else .coloured .green
    (s.headline p style ++ s.dataLine p ++ s.menuLines p.commands,
      { s with current := p.key, menu := p.commands })
  else (s.headline p (.coloured .blue) ++ s.dataLine p, s)

/-- Prints messages one after another. -/
def renderAll (s : Screen) : List Payload → String × Screen
  | [] => ("", s)
  | p :: rest =>
    let (text, s) := s.render p
    let (more, s) := renderAll s rest
    (text ++ more, s)

def onOneLine (text : String) : String :=
  String.intercalate " / " (text.splitOn "\n")

/-- Prints the messages kept under a key, or under the current one. -/
def history (s : Screen) (replies : Replies) (key : Option String) : String :=
  let key := key.getD s.current
  match replies.history key with
  | [] => line (Style.faint.paint s.colours ("No history for " ++ key))
  | ps =>
    line ((Style.strong .cyan).paint s.colours key) ++
      String.join (ps.zipIdx.map fun (p, i) =>
        line ("  " ++ Style.faint.paint s.colours (Decimal.padLeft 3 (i + 1)) ++ " " ++
          (Style.coloured .yellow).paint s.colours p.effectiveAction ++ " " ++
          onOneLine (p.response.getD "")))

def help (s : Screen) : String :=
  let title (text : String) : String := (Style.strong .cyan).paint s.colours text
  let heading (text : String) : String := (Style.strong .yellow).paint s.colours text
  String.join ([
    "",
    title "Switchboard Commands",
    "",
    heading "Menu",
    "  <n>                 Send the n-th action of the menu shown last",
    "  <action>            Send an action by name (e.g. Ping, Reset, KnockKnock)",
    "",
    heading "Always available",
    "  Ping                Repeat the current status",
    "  ResetCurrent        Reset the active protocol",
    "  Reset               Back to the protocol chooser",
    "",
    heading "Arguments",
    "  When an action needs arguments you are asked for each one, with the",
    "  server's default already filled in. Ctrl-C cancels the form.",
    "",
    heading "Local",
    "  help                Show this help",
    "  history [key]       Payloads received from a protocol",
    "  reconnect           Connect again after the server closed the connection",
    "  clear               Clear screen",
    "  quit/exit           Exit CLI",
    ""].map line)

end Screen

/-- A controller: its session and its screen. -/
structure Controller (S D : Type) where
  session : Session S D := {}
  screen : Screen

namespace Controller

variable {S D : Type}

/-- Sends an action and prints the messages that come back; gives the text. -/
def runAction (c : Controller S D) (action : String) (replies : List Payload) :
    String × Controller S D :=
  let colours := c.screen.colours
  let warning :=
    if c.session.link.state == .connected then ""
    else Screen.line ((Style.coloured .yellow).paint colours "Not connected; queued until 'reconnect'.")
  let (_, session) := c.session.request action
  let (text, screen) := c.screen.renderAll replies
  let silence :=
    if replies.isEmpty then Screen.line (Style.faint.paint colours "(no reply)") else ""
  (warning ++ text ++ silence, { session, screen })

end Controller

end Switchboard
