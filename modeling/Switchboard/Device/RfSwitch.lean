import Switchboard.Hardware.Basic
import Switchboard.Device.Arguments

/-!
Switches behind the radio. A transmission is acknowledged when it is queued; its outcome comes later
and, when it was sent, becomes the recorded state of the switch. A reset starts a new table, so that
transmissions still queued record their outcome in the old one.
-/

namespace Switchboard

structure RfSwitch where
  connection : String
  /-- The switches that a new table has. -/
  seed : List SwitchConfig
  /-- The number of the table in use. -/
  table : Nat
  lease : Nat
  negotiator : Negotiator := {}
  deriving DecidableEq, Repr

namespace RfSwitch

variable {R D : Type}

def start (seed : List SwitchConfig) (connection : String) (h : Hardware R D) :
    RfSwitch × Hardware R D :=
  let (table, h) := h.newTable (seed.map Switch.ofConfig)
  let (lease, radioQueue) := h.radioQueue.lease
  ({ connection, seed, table, lease }, { h with radioQueue })

def ready (r : RfSwitch) (h : Hardware R D) : Bool :=
  h.radioQueue.leaseAvailable r.lease

def switches (r : RfSwitch) (h : Hardware R D) : List Switch :=
  h.table r.table

def commands (r : RfSwitch) (h : Hardware R D) : List String :=
  let known := !(r.switches h).isEmpty
  menu (["ListSwitches"] ++ (if r.ready h && known then ["SwitchOn", "SwitchOff", "AllOff"] else []) ++
    ["AddSwitch"] ++ if known then ["RemoveSwitch"] else [])

def status (r : RfSwitch) (h : Hardware R D) : String :=
  let radio := if r.ready h then "RF radio ready" else "RF radio unavailable"
  let count := toString (r.switches h).length
  match r.negotiator.pending with
  | some command => radio ++ ", " ++ count ++ " switches, waiting for " ++ command ++ " arguments"
  | none => radio ++ ", " ++ count ++ " switches"

def reply (r : RfSwitch) (h : Hardware R D) (action response : String) : Payload :=
  { key := rfSwitchKey
    action := some action
    response := some response
    commands := r.commands h }

/-- The switch offered where one is asked for: the first. -/
def defaultSwitch (r : RfSwitch) (h : Hardware R D) : String :=
  ((r.switches h).head?.map Switch.name).getD ""

def stateText : Option Bool → String
  | some true => "on"
  | some false => "off"
  | none => "unknown"

def switchValue (s : Switch) : Json.Value :=
  .object [("name", .text s.name), ("on_code", .number (.integer s.onCode.toNat)),
    ("off_code", .number (.integer s.offCode.toNat)),
    ("state", match s.state with | some on => .boolean on | none => .null)]

def list (r : RfSwitch) (h : Hardware R D) : Payload :=
  let switches := r.switches h
  let lines := switches.map fun s => s.name ++ ": " ++ stateText s.state
  let response :=
    if lines.isEmpty then "No switches configured" else String.intercalate "\n" lines
  { r.reply h "ListSwitches" response with
    data := some (Json.Value.list (switches.map switchValue)).compact }

/-- Queues a transmission, or says why it cannot be. -/
def transmit (r : RfSwitch) (h : Hardware R D) (action switch : String) (code : UInt32) (on : Bool) :
    Except String (Hardware R D) :=
  let job : RadioJob :=
    { table := r.table, connection := r.connection, action, switch, code, on
      commands := r.commands h }
  match h.radioQueue.submit r.lease job with
  | .ok radioQueue => .ok { h with radioQueue }
  | .error failure => .error ("RF radio unavailable: " ++ failure.message)

def execute (r : RfSwitch) (h : Hardware R D) (action switch : String) (on : Bool) :
    Payload × Hardware R D :=
  match (r.switches h).find? fun s => s.name == switch with
  | none => (r.reply h action ("Unknown switch: " ++ switch), h)
  | some s =>
    match r.transmit h action switch (s.code on) on with
    | .ok h => (r.reply h action ("Executing " ++ action ++ " " ++ switch ++ "…"), h)
    | .error reason => (r.reply h action reason, h)

def switchTo (r : RfSwitch) (h : Hardware R D) (action : String) (on : Bool) (data : Option String) :
    Payload × RfSwitch × Hardware R D :=
  if !r.ready h then
    (r.reply h action ("RF radio unavailable; " ++ action ++ " is disabled"), r, h)
  else
    let description := if on then "Turn a switch on" else "Turn a switch off"
    let schema := SwitchArguments.schemaFor action description (r.defaultSwitch h)
    let (outcome, negotiator) : Negotiation SwitchArguments × Negotiator :=
      r.negotiator.negotiate data schema
    let r := { r with negotiator }
    match outcome with
    | .ready arguments =>
      let (reply, h) := r.execute h action arguments.switch on
      (reply, r, h)
    | .challenge schema => (schema.challenge rfSwitchKey (r.commands h), r, h)
    | .malformed reason => (r.reply h action reason, r, h)

/-- Queues the transmissions that switch some switches off, up to the first that is refused. -/
def transmitOff (r : RfSwitch) : List Switch → Hardware R D → Except String Unit × Hardware R D
  | [], h => (.ok (), h)
  | s :: rest, h =>
    match r.transmit h "AllOff" s.name s.offCode false with
    | .ok h => transmitOff r rest h
    | .error reason => (.error reason, h)

def allOff (r : RfSwitch) (h : Hardware R D) : Payload × Hardware R D :=
  if !r.ready h then (r.reply h "AllOff" "RF radio unavailable; AllOff is disabled", h)
  else
    let targets := r.switches h
    match r.transmitOff targets h with
    | (.ok (), h) =>
      (r.reply h "AllOff" ("Executing AllOff on " ++ toString targets.length ++ " switches…"), h)
    | (.error reason, h) => (r.reply h "AllOff" reason, h)

/-- Adds a switch unless its name is taken. -/
def add (r : RfSwitch) (h : Hardware R D) (data : Option String) :
    Payload × RfSwitch × Hardware R D :=
  let (outcome, negotiator) : Negotiation AddSwitchArguments × Negotiator :=
    r.negotiator.negotiate data (CommandArguments.schema AddSwitchArguments)
  let r := { r with negotiator }
  match outcome with
  | .challenge schema => (schema.challenge rfSwitchKey (r.commands h), r, h)
  | .malformed reason => (r.reply h "AddSwitch" reason, r, h)
  | .ready arguments =>
    let switches := r.switches h
    if switches.any fun s => s.name == arguments.name then
      (r.reply h "AddSwitch" ("Switch " ++ arguments.name ++ " already exists"), r, h)
    else
      let switch : Switch :=
        { name := arguments.name, onCode := arguments.onCode, offCode := arguments.offCode }
      let h := h.setTable r.table (switches ++ [switch])
      (r.reply h "AddSwitch" ("Added switch " ++ arguments.name), r, h)

def remove (r : RfSwitch) (h : Hardware R D) (data : Option String) :
    Payload × RfSwitch × Hardware R D :=
  let schema := SwitchArguments.schemaFor "RemoveSwitch" "Forget a switch" (r.defaultSwitch h)
  let (outcome, negotiator) : Negotiation SwitchArguments × Negotiator :=
    r.negotiator.negotiate data schema
  let r := { r with negotiator }
  match outcome with
  | .challenge schema => (schema.challenge rfSwitchKey (r.commands h), r, h)
  | .malformed reason => (r.reply h "RemoveSwitch" reason, r, h)
  | .ready arguments =>
    let switches := r.switches h
    let kept := switches.filter fun s => s.name != arguments.switch
    if kept.length == switches.length then
      (r.reply h "RemoveSwitch" ("Unknown switch: " ++ arguments.switch), r, h)
    else
      let h := h.setTable r.table kept
      (r.reply h "RemoveSwitch" ("Removed switch " ++ arguments.switch), r, h)

def reset (r : RfSwitch) (h : Hardware R D) : Payload × RfSwitch × Hardware R D :=
  let (table, h) := h.newTable (r.seed.map Switch.ofConfig)
  let r := { r with table, negotiator := {} }
  (r.reply h Action.reset (r.status h), r, h)

def process (r : RfSwitch) (p : Payload) (h : Hardware R D) : Payload × RfSwitch × Hardware R D :=
  match p.effectiveAction with
  | "Ping" => (r.reply h Action.ping (r.status h), r, h)
  | "Reset" => r.reset h
  | "ListSwitches" => (r.list h, r, h)
  | "SwitchOn" => r.switchTo h "SwitchOn" true p.data
  | "SwitchOff" => r.switchTo h "SwitchOff" false p.data
  | "AllOff" =>
    let (reply, h) := r.allOff h
    (reply, r, h)
  | "AddSwitch" => r.add h p.data
  | "RemoveSwitch" => r.remove h p.data
  | other => (r.reply h other ("Unknown action: " ++ other), r, h)

/-- Drops the transmissions still queued. -/
def close (r : RfSwitch) (h : Hardware R D) : Hardware R D :=
  { h with radioQueue := h.radioQueue.cancel r.lease }

end RfSwitch

end Switchboard
