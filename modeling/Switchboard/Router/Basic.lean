import Switchboard.Router.Protocol

/-!
The router of a connection. It lets the connection choose a protocol and passes everything on to the
chosen one, except the two actions that lead back to the chooser. Instances are built when they are
first chosen and kept, so that choosing again resumes them.
-/

namespace Switchboard

def routerKey : String := "ProxyProtocol"

inductive RouterState
  | choosing
  | delegating (selector : String)
  deriving DecidableEq, Repr, Inhabited

structure Router (W I : Type) where
  registry : Registry W I
  connection : String
  state : RouterState := .choosing
  /-- The instances built so far, each under its selector, the oldest first. -/
  instances : List (String × I) := []

/-- Puts the escape actions after the menu of a reply and names the protocol of an unnamed one. -/
def Payload.decorate (reply : Payload) (key : String) : Payload :=
  { reply with
    key := if reply.key == "" then key else reply.key
    commands :=
      reply.commands.filter (fun c => c != Action.reset && c != Action.resetCurrent) ++
        [Action.resetCurrent, Action.reset] }

namespace Router

variable {W I : Type}

def instance? (r : Router W I) (selector : String) : Option I :=
  r.instances.lookup selector

def setInstance (r : Router W I) (selector : String) (i : I) : Router W I :=
  { r with
    instances := r.instances.map fun entry => if entry.1 == selector then (selector, i) else entry }

/-- Tells whether no protocol is chosen. -/
def isChoosing (r : Router W I) : Bool :=
  r.state == .choosing

def chooserReply (r : Router W I) (response : String) : Payload :=
  { key := routerKey
    action := some Action.chooser
    response := some response
    commands := r.registry.menu }

variable [Protocol W I]

def activeKey (r : Router W I) : Option String :=
  match r.state with
  | .choosing => none
  | .delegating selector => (r.instance? selector).map (Protocol.key W)

/-- Fits a message that a protocol sent on its own to the menu of the moment. -/
def annotate (r : Router W I) (p : Payload) : Payload :=
  match r.activeKey with
  | some key =>
    if key == p.key then p.decorate key else { p with commands := r.registry.menu }
  | none => { p with commands := r.registry.menu }

/-- Passes to the instance of a selector and greets with its status. -/
def enter (r : Router W I) (selector : String) (i : I) (w : W) : Payload × Router W I × W :=
  let (status, i, w) := Protocol.process i { Payload.ping with key := Protocol.key W i } w
  let key := Protocol.key W i
  let banner := "Chose Protocol: " ++ key ++ "\n" ++ status.response.getD ""
  ({ status.decorate key with response := some banner },
    { r.setInstance selector i with state := .delegating selector }, w)

/-- Chooses a registered protocol, building its instance if there is none. -/
def select (r : Router W I) (selector : String) (w : W) : Payload × Router W I × W :=
  match r.instance? selector with
  | some i => r.enter selector i w
  | none =>
    match r.registry.build selector r.connection w with
    | .error failure =>
      (r.chooserReply ("Could not start " ++ selector ++ ": " ++ failure.message), r, w)
    | .ok (i, w) => { r with instances := r.instances ++ [(selector, i)] }.enter selector i w

/-- Handles a request while no protocol is chosen. -/
def choose (r : Router W I) (p : Payload) (w : W) : Payload × Router W I × W :=
  let action := p.effectiveAction
  if action == Action.ping || action == Action.reset || action == Action.chooser then
    (r.chooserReply "Choose a protocol", r, w)
  else if r.registry.contains action then r.select action w
  else (r.chooserReply ("Unknown protocol: " ++ action ++ ". Choose a protocol"), r, w)

/-- Handles a request while a protocol is chosen. -/
def delegate (r : Router W I) (selector : String) (p : Payload) (w : W) :
    Payload × Router W I × W :=
  match r.instance? selector with
  | none => (r.chooserReply "Choose a protocol", { r with state := .choosing }, w)
  | some i =>
    let key := Protocol.key W i
    let action := p.effectiveAction
    if action == Action.reset then
      (r.chooserReply ("Left " ++ key ++ ". Choose a protocol"), { r with state := .choosing }, w)
    else if action == Action.resetCurrent then
      let (_, i, w) := Protocol.process i { Payload.request Action.reset with key } w
      (r.chooserReply ("Reset " ++ key ++ ". Choose a protocol"),
        { r.setInstance selector i with state := .choosing }, w)
    else
      let (reply, i, w) := Protocol.process i p w
      (reply.decorate key, r.setInstance selector i, w)

def process (r : Router W I) (p : Payload) (w : W) : Payload × Router W I × W :=
  match r.state with
  | .choosing => r.choose p w
  | .delegating selector => r.delegate selector p w

/-- Closes every instance and goes back to the chooser. -/
def close (r : Router W I) (w : W) : Router W I × W :=
  ({ r with state := .choosing, instances := [] },
    r.instances.foldl (fun w entry => Protocol.close entry.2 w) w)

end Router

end Switchboard
