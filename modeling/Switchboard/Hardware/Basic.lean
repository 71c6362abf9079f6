import Switchboard.Hardware.Queue
import Switchboard.Hardware.Radio
import Switchboard.Hardware.Dongle
import Switchboard.Payload.Basic
import Switchboard.Text.Quoted

/-!
The hardware that all connections share: a radio and a dongle, each behind its queue, and what the jobs
in the queues write to. A job names the table or cache it changes and the connection it reports to, so
the instance that submitted it may have moved on.
-/

namespace Switchboard

/-- A switch of a table and the state that the radio last confirmed. -/
structure Switch where
  name : String
  onCode : UInt32
  offCode : UInt32
  state : Option Bool := none
  deriving DecidableEq, Repr, Inhabited

namespace Switch

def ofConfig (config : SwitchConfig) : Switch :=
  { name := config.name, onCode := config.onCode, offCode := config.offCode }

/-- The code that switches on or off. -/
def code (s : Switch) (on : Bool) : UInt32 :=
  if on then s.onCode else s.offCode

/-- Records a state with the first switch of a name. -/
def record (name : String) (on : Bool) : List Switch → List Switch
  | [] => []
  | s :: rest => if s.name == name then { s with state := some on } :: rest else s :: record name on rest

end Switch

def rfSwitchKey : String := "RfSwitchProtocol"

def zigBeeKey : String := "ZigBeeProtocol"

structure RadioJob where
  /-- The number of the table that records the outcome. -/
  table : Nat
  connection : String
  action : String
  switch : String
  code : UInt32
  /-- The state that the code brings about. -/
  on : Bool
  /-- The menu as of submission. -/
  commands : List String
  deriving DecidableEq, Repr

inductive DongleCommand
  | listDevices
  | permitJoin (seconds : UInt16)
  | setOnOff (device : String) (on : Bool)
  | identify (device : String)
  | setLevel (device : String) (level : UInt8)
  deriving DecidableEq, Repr

structure DongleJob where
  /-- The number of the cache that takes the devices afterwards. -/
  cache : Nat
  connection : String
  action : String
  command : DongleCommand
  /-- The menu as of submission. -/
  commands : List String
  deriving DecidableEq, Repr

/-- The hardware with a radio in `R` and a dongle in `D`. -/
structure Hardware (R D : Type) where
  radioQueue : JobQueue RadioJob
  dongleQueue : JobQueue DongleJob
  radio : R
  dongle : D
  /-- The switch tables by number. -/
  tables : List (List Switch) := []
  /-- The networks as last known, by number. -/
  caches : List (List NetworkDevice) := []
  /-- What protocols sent on their own, with the connection it is for, the oldest first. -/
  outbox : List (String × Payload) := []

namespace Hardware

variable {R D : Type}

def describe (h : Hardware R D) : String :=
  "Hardware \x7b radio: " ++ h.radioQueue.describe Text.quote ++ ", dongle: " ++
    h.dongleQueue.describe Text.quote ++ " \x7d"

def table (h : Hardware R D) (n : Nat) : List Switch :=
  h.tables[n]?.getD []

def setTable (h : Hardware R D) (n : Nat) (switches : List Switch) : Hardware R D :=
  { h with tables := h.tables.set n switches }

def newTable (h : Hardware R D) (switches : List Switch) : Nat × Hardware R D :=
  (h.tables.length, { h with tables := h.tables ++ [switches] })

/-- The network of a number as last known. -/
def cache (h : Hardware R D) (n : Nat) : List NetworkDevice :=
  h.caches[n]?.getD []

def setCache (h : Hardware R D) (n : Nat) (devices : List NetworkDevice) : Hardware R D :=
  { h with caches := h.caches.set n devices }

def newCache (h : Hardware R D) (devices : List NetworkDevice) : Nat × Hardware R D :=
  (h.caches.length, { h with caches := h.caches ++ [devices] })

def emit (h : Hardware R D) (connection : String) (p : Payload) : Hardware R D :=
  { h with outbox := h.outbox ++ [(connection, p)] }

def takeOutbox (h : Hardware R D) (connection : String) : List Payload × Hardware R D :=
  ((h.outbox.filter (·.1 == connection)).map Prod.snd,
    { h with outbox := h.outbox.filter (·.1 != connection) })

def stateName (on : Bool) : String :=
  if on then "on" else "off"

def RadioJob.report (job : RadioJob) (response : String) : Payload :=
  { key := rfSwitchKey
    action := some job.action
    response := some response
    commands := job.commands }

def runRadio [Radio R] (h : Hardware R D) (job : RadioJob) : Hardware R D :=
  let (outcome, radio) := Radio.transmit h.radio job.code
  let h := { h with radio }
  match outcome with
  | .sent =>
    (h.setTable job.table (Switch.record job.switch job.on (h.table job.table))).emit job.connection
      (RadioJob.report job (job.switch ++ " is " ++ stateName job.on))
  | .failed failure =>
    h.emit job.connection
      (RadioJob.report job (job.action ++ " failed for " ++ job.switch ++ ": " ++ failure.message))
  | .crashed => { h with radioQueue := h.radioQueue.crash }

def stepRadio [Radio R] (h : Hardware R D) : Hardware R D :=
  match h.radioQueue.take? with
  | none => h
  | some (none, radioQueue) => { h with radioQueue }
  | some (some job, radioQueue) => { h with radioQueue }.runRadio job

/-- Lets the worker of the radio take every job. -/
def settleRadio [Radio R] (h : Hardware R D) : Hardware R D :=
  h.radioQueue.waiting.foldl (fun h _ => h.stepRadio) h

def deviceLine (d : NetworkDevice) : String :=
  let line := d.id ++ " (" ++ d.name ++ "): " ++ stateName d.on
  if d.dimmable then line ++ " level " ++ toString d.level else line

def deviceList (devices : List NetworkDevice) : Payload :=
  { response := some
      (if devices.isEmpty then "No devices on the network"
      else String.intercalate "\n" (devices.map deviceLine))
    data := some (NetworkDevice.listJson devices) }

/-- Gives a command to the dongle; the result says what came of it. -/
def perform [Dongle D] (dongle : D) : DongleCommand → Except Failure Payload × D
  | .listDevices =>
    let (devices, dongle) := Dongle.devices dongle
    (devices.map deviceList, dongle)
  | .permitJoin seconds =>
    let (done, dongle) := Dongle.permitJoin dongle seconds
    (done.map fun _ => { response := some ("Network open for " ++ toString seconds ++ "s") }, dongle)
  | .setOnOff device on =>
    let (done, dongle) := Dongle.setOnOff dongle device on
    (done.map fun _ => { response := some (device ++ " is " ++ stateName on) }, dongle)
  | .identify device =>
    let (done, dongle) := Dongle.identify dongle device
    (done.map fun _ => { response := some (device ++ " identified") }, dongle)
  | .setLevel device level =>
    let (done, dongle) := Dongle.setLevel dongle device level
    (done.map fun _ => { response := some (device ++ " level is " ++ toString level) }, dongle)

def DongleJob.report (job : DongleJob) (result : Except Failure Payload) : Payload :=
  let reply : Payload :=
    match result with
    | .ok reply => reply
    | .error failure => { response := some (job.action ++ " failed: " ++ failure.message) }
  { reply with key := zigBeeKey, action := some job.action, commands := job.commands }

def DongleJob.eventReport (job : DongleJob) (event : NetworkEvent) : Payload :=
  { key := zigBeeKey
    action := some "Event"
    data := some event.toJson
    response := some event.describe
    commands := job.commands }

/-- Runs a command: afterwards the network is looked up again, then the result and the events go out. -/
def runDongle [Dongle D] (h : Hardware R D) (job : DongleJob) : Hardware R D :=
  let (result, dongle) := perform h.dongle job.command
  let (network, dongle) := Dongle.devices dongle
  let (events, dongle) := Dongle.pollEvents dongle
  let h :=
    match network with
    | .ok devices => h.setCache job.cache devices
    | .error _ => h
  let h := { h with dongle }.emit job.connection (DongleJob.report job result)
  events.foldl (fun h event => h.emit job.connection (DongleJob.eventReport job event)) h

def stepDongle [Dongle D] (h : Hardware R D) : Hardware R D :=
  match h.dongleQueue.take? with
  | none => h
  | some (none, dongleQueue) => { h with dongleQueue }
  | some (some job, dongleQueue) => { h with dongleQueue }.runDongle job

/-- Lets the worker of the dongle take every job. -/
def settleDongle [Dongle D] (h : Hardware R D) : Hardware R D :=
  h.dongleQueue.waiting.foldl (fun h _ => h.stepDongle) h

/-- Hardware with a radio and a dongle, each present or not. -/
def attach (radio : R) (dongle : D) (hasRadio hasDongle : Bool) : Hardware R D :=
  { radioQueue := if hasRadio then .spawn "rf" else .unavailable "rf"
    dongleQueue := if hasDongle then .spawn "zigbee" else .unavailable "zigbee"
    radio
    dongle }

def simulated (config : DeviceConfig) : Hardware SimulatedRadio SimulatedDongle :=
  attach {} (.ofConfig config.zigbee) config.rf.enabled config.zigbee.enabled

end Hardware

end Switchboard
