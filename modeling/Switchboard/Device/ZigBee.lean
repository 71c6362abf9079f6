import Switchboard.Hardware.Basic
import Switchboard.Device.Arguments

/-!
Devices behind the dongle. Every command is acknowledged when it is queued; its result and the events
that the dongle reports come later, and the network as last known is looked up after every command.
-/

namespace Switchboard

structure ZigBee where
  connection : String
  channel : UInt8
  /-- The devices known at the start. -/
  seed : List NetworkDevice
  /-- The number of the network as last known. -/
  cache : Nat
  lease : Nat
  negotiator : Negotiator := {}
  deriving DecidableEq, Repr

namespace ZigBee

variable {R D : Type}

def start (config : ZigBeeConfig) (connection : String) (h : Hardware R D) :
    ZigBee × Hardware R D :=
  let seed := config.devices.map NetworkDevice.ofEntry
  let (cache, h) := h.newCache seed
  let (lease, dongleQueue) := h.dongleQueue.lease
  ({ connection, channel := config.channel, seed, cache, lease }, { h with dongleQueue })

def ready (z : ZigBee) (h : Hardware R D) : Bool :=
  h.dongleQueue.leaseAvailable z.lease

/-- The devices as last known. -/
def devices (z : ZigBee) (h : Hardware R D) : List NetworkDevice :=
  h.cache z.cache

def commands (z : ZigBee) (h : Hardware R D) : List String :=
  menu (if z.ready h then ["ListDevices", "PermitJoin", "On", "Off", "SetLevel", "Identify"] else [])

def reply (z : ZigBee) (h : Hardware R D) (action response : String) : Payload :=
  { key := zigBeeKey
    action := some action
    response := some response
    commands := z.commands h }

def status (z : ZigBee) (h : Hardware R D) : String :=
  if !z.ready h then "ZigBee dongle unavailable"
  else
    let network := "ZigBee network on channel " ++ toString z.channel ++ ", " ++
      toString (z.devices h).length ++ " devices"
    match z.negotiator.pending with
    | some command => network ++ ", waiting for " ++ command ++ " arguments"
    | none => network

/-- The device offered where one is asked for: the first that suits. -/
def defaultDevice (z : ZigBee) (h : Hardware R D) (dimmableOnly : Bool) : String :=
  (((z.devices h).find? fun d => !dimmableOnly || d.dimmable).map NetworkDevice.id).getD ""

/-- The reply while the dongle cannot be used. -/
def unavailable (z : ZigBee) (h : Hardware R D) (action : String) : Payload :=
  z.reply h action ("ZigBee dongle unavailable; " ++ action ++ " is disabled")

def execute (z : ZigBee) (h : Hardware R D) (action acknowledgement : String)
    (command : DongleCommand) : Payload × Hardware R D :=
  let job : DongleJob :=
    { cache := z.cache, connection := z.connection, action, command, commands := z.commands h }
  match h.dongleQueue.submit z.lease job with
  | .ok dongleQueue =>
    let h := { h with dongleQueue }
    (z.reply h action acknowledgement, h)
  | .error failure => (z.reply h action ("ZigBee dongle unavailable: " ++ failure.message), h)

def list (z : ZigBee) (h : Hardware R D) : Payload × Hardware R D :=
  if !z.ready h then (z.unavailable h "ListDevices", h)
  else z.execute h "ListDevices" "Executing ListDevices…" .listDevices

/-- Negotiates the arguments of an action and runs it on them. -/
def withArguments {α : Type} [CommandArguments α] (z : ZigBee) (h : Hardware R D) (action : String)
    (data : Option String) (schema : ArgumentSchema)
    (run : ZigBee → α → Payload × Hardware R D) : Payload × ZigBee × Hardware R D :=
  if !z.ready h then (z.unavailable h action, z, h)
  else
    let (outcome, negotiator) : Negotiation α × Negotiator := z.negotiator.negotiate data schema
    let z := { z with negotiator }
    match outcome with
    | .ready arguments =>
      let (reply, h) := run z arguments
      (reply, z, h)
    | .challenge schema => (schema.challenge zigBeeKey (z.commands h), z, h)
    | .malformed reason => (z.reply h action reason, z, h)

def permitJoin (z : ZigBee) (h : Hardware R D) (data : Option String) :
    Payload × ZigBee × Hardware R D :=
  z.withArguments h "PermitJoin" data (CommandArguments.schema JoinArguments)
    fun z (arguments : JoinArguments) =>
      z.execute h "PermitJoin" ("Executing PermitJoin for " ++ toString arguments.seconds ++ "s…")
        (.permitJoin arguments.seconds)

/-- Runs a command that needs only a device. -/
def deviceAction (z : ZigBee) (h : Hardware R D) (action description : String)
    (data : Option String) (command : String → DongleCommand) : Payload × ZigBee × Hardware R D :=
  z.withArguments h action data (DeviceArguments.schemaFor action description (z.defaultDevice h false))
    fun z (arguments : DeviceArguments) =>
      z.execute h action ("Executing " ++ action ++ " " ++ arguments.device ++ "…")
        (command arguments.device)

def setLevel (z : ZigBee) (h : Hardware R D) (data : Option String) :
    Payload × ZigBee × Hardware R D :=
  z.withArguments h "SetLevel" data (LevelArguments.schemaFor (z.defaultDevice h true))
    fun z (arguments : LevelArguments) =>
      z.execute h "SetLevel"
        ("Executing SetLevel " ++ arguments.device ++ " to " ++ toString arguments.level ++ "…")
        (.setLevel arguments.device arguments.level)

def reset (z : ZigBee) (h : Hardware R D) : Payload × ZigBee × Hardware R D :=
  let h := h.setCache z.cache z.seed
  let z := { z with negotiator := {} }
  (z.reply h Action.reset (z.status h), z, h)

def process (z : ZigBee) (p : Payload) (h : Hardware R D) : Payload × ZigBee × Hardware R D :=
  match p.effectiveAction with
  | "Ping" => (z.reply h Action.ping (z.status h), z, h)
  | "Reset" => z.reset h
  | "ListDevices" =>
    let (reply, h) := z.list h
    (reply, z, h)
  | "PermitJoin" => z.permitJoin h p.data
  | "On" => z.deviceAction h "On" "Switch a device on" p.data (.setOnOff · true)
  | "Off" => z.deviceAction h "Off" "Switch a device off" p.data (.setOnOff · false)
  | "Identify" => z.deviceAction h "Identify" "Make a device blink" p.data .identify
  | "SetLevel" => z.setLevel h p.data
  | other => (z.reply h other ("Unknown action: " ++ other), z, h)

/-- Drops the commands still queued. -/
def close (z : ZigBee) (h : Hardware R D) : Hardware R D :=
  { h with dongleQueue := h.dongleQueue.cancel z.lease }

end ZigBee

end Switchboard
