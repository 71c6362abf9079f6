import Switchboard.Failure
import Switchboard.Json.Tagged
import Switchboard.Device.Config

/-!
Dongles that coordinate a ZigBee network: the devices on it, the events it reports, and a simulated
dongle that keeps its network in memory and reports what it is told to do.
-/

namespace Switchboard

structure NetworkDevice where
  id : String
  name : String
  dimmable : Bool
  on : Bool := false
  level : UInt8 := 0
  deriving DecidableEq, Repr, Inhabited

inductive NetworkEvent
  | joined (device : String)
  | left (device : String)
  | reported (device name value : String)
  deriving DecidableEq, Repr, Inhabited

namespace NetworkDevice

open Json

def shape : RecordShape NetworkDevice where
  name := "ZigbeeDevice"
  fields := [
    .mandatory "id" .text fun id d => { d with id },
    .mandatory "name" .text fun name d => { d with name },
    .mandatory "dimmable" .boolean fun dimmable d => { d with dimmable },
    .mandatory "on" .boolean fun on d => { d with on },
    .mandatory "level" (.natural 8) fun level d => { d with level := .ofNat level }]
  blank := { id := "", name := "", dimmable := false }

def toValue (d : NetworkDevice) : Value :=
  .object [("id", .text d.id), ("name", .text d.name), ("dimmable", .boolean d.dimmable),
    ("on", .boolean d.on), ("level", .number (.integer d.level.toNat))]

def ofJson (source : String) : Except Failure NetworkDevice :=
  match shape.decoder.decode source with
  | .ok d => .ok d
  | .error fault => .error (.serialization (fault.message source))

/-- A known device as it is before anything is heard of it. -/
def ofEntry (entry : DeviceEntry) : NetworkDevice :=
  { id := entry.id, name := entry.name, dimmable := entry.dimmable }

def listJson (devices : List NetworkDevice) : String :=
  (Value.list (devices.map toValue)).compact

end NetworkDevice

namespace NetworkEvent

open Json

def describe : NetworkEvent → String
  | joined device => device ++ " joined the network"
  | left device => device ++ " left the network"
  | reported device name value => device ++ " reported " ++ name ++ " = " ++ value

def toValue : NetworkEvent → Value
  | joined device => .object [("event", .text "joined"), ("device", .text device)]
  | left device => .object [("event", .text "left"), ("device", .text device)]
  | reported device name value =>
    .object [("event", .text "attribute"), ("device", .text device), ("name", .text name),
      ("value", .text value)]

def toJson (e : NetworkEvent) : String :=
  e.toValue.compact

def tagged : TaggedShape where
  name := "ZigbeeEvent"
  tag := "event"
  variants := ["joined", "left", "attribute"]

/-- The fields of an event that concerns only a device. -/
def deviceShape (variant : String) : RecordShape String where
  name := "variant ZigbeeEvent::" ++ variant
  fields := [.mandatory "device" .text fun device _ => device]
  blank := ""

/-- The fields of a reported attribute: the device, the name and the value. -/
def attributeShape : RecordShape (String × String × String) where
  name := "variant ZigbeeEvent::Attribute"
  fields := [
    .mandatory "device" .text fun device a => (device, a.2),
    .mandatory "name" .text fun name a => (a.1, name, a.2.2),
    .mandatory "value" .text fun value a => (a.1, a.2.1, value)]
  blank := ("", "", "")

def ofFields (variant : String) (fields : Value) : Except Cause NetworkEvent :=
  if variant == "joined" then
    ((deviceShape "Joined").decoder.ofValue .counted fields).map joined
  else if variant == "left" then
    ((deviceShape "Left").decoder.ofValue .counted fields).map left
  else
    (attributeShape.decoder.ofValue .counted fields).map fun (device, name, value) =>
      reported device name value

def ofJson (source : String) : Except Failure NetworkEvent :=
  let refused (fault : Fault) : Except Failure NetworkEvent :=
    .error (.serialization (fault.message source))
  match tagged.read (Cursor.start source) with
  | .error fault => refused fault
  | .ok ((variant, fields), next) =>
    match ofFields variant fields with
    | .error cause => .error (.serialization cause.message)
    | .ok event =>
      match next.finished with
      | .error fault => refused fault
      | .ok () => .ok event

end NetworkEvent

class Dongle (D : Type) where
  /-- The devices on the network. -/
  devices : D → Except Failure (List NetworkDevice) × D
  /-- Opens the network for new devices. -/
  permitJoin : D → UInt16 → Except Failure Unit × D
  setOnOff : D → String → Bool → Except Failure Unit × D
  setLevel : D → String → UInt8 → Except Failure Unit × D
  /-- Makes a device show itself. -/
  identify : D → String → Except Failure Unit × D
  /-- Takes the events reported since the last time. -/
  pollEvents : D → List NetworkEvent × D

structure SimulatedDongle where
  devices : List NetworkDevice := []
  /-- The events not yet polled, the oldest first. -/
  events : List NetworkEvent := []
  /-- The number of devices that joined. -/
  joins : UInt32 := 0
  deriving DecidableEq, Repr, Inhabited

namespace SimulatedDongle

def ofConfig (config : ZigBeeConfig) : SimulatedDongle :=
  { devices := config.devices.map NetworkDevice.ofEntry }

/-- Replaces the first device with an id by what a function makes of it. -/
def update (id : String) (f : NetworkDevice → Except Failure NetworkDevice) :
    List NetworkDevice → Except Failure (List NetworkDevice)
  | [] => .error (.hardware ("no device " ++ id ++ " on the network"))
  | d :: rest =>
    if d.id == id then (f d).map (· :: rest) else (update id f rest).map (d :: ·)

def change (g : SimulatedDongle) (id : String) (f : NetworkDevice → Except Failure NetworkDevice)
    (events : List NetworkEvent) : Except Failure Unit × SimulatedDongle :=
  match update id f g.devices with
  | .ok devices => (.ok (), { g with devices, events := g.events ++ events })
  | .error failure => (.error failure, g)

/-- Opens the network; unless it closes at once, one new bulb joins. -/
def permitJoin (g : SimulatedDongle) (seconds : UInt16) : Except Failure Unit × SimulatedDongle :=
  if seconds == 0 then (.ok (), g)
  else
    let joins := g.joins + 1
    let id := "sim-" ++ toString joins
    let bulb : NetworkDevice :=
      { id, name := "Simulated bulb " ++ toString joins, dimmable := true }
    (.ok (), { devices := g.devices ++ [bulb], events := g.events ++ [.joined id], joins })

def setOnOff (g : SimulatedDongle) (id : String) (on : Bool) : Except Failure Unit × SimulatedDongle :=
  g.change id (fun d => .ok { d with on }) [.reported id "on_off" (if on then "on" else "off")]

/-- Sets the level of a dimmable device; it is on unless the level is zero. -/
def setLevel (g : SimulatedDongle) (id : String) (level : UInt8) :
    Except Failure Unit × SimulatedDongle :=
  let dim (d : NetworkDevice) : Except Failure NetworkDevice :=
    if d.dimmable then .ok { d with level, on := 0 < level }
    else .error (.hardware (d.id ++ " is not dimmable"))
  g.change id dim [.reported id "level" (toString level)]

def identify (g : SimulatedDongle) (id : String) : Except Failure Unit × SimulatedDongle :=
  g.change id .ok []

/-- Takes the events reported since the last time. -/
def pollEvents (g : SimulatedDongle) : List NetworkEvent × SimulatedDongle :=
  (g.events, { g with events := [] })

instance : Dongle SimulatedDongle where
  devices g := (.ok g.devices, g)
  permitJoin := permitJoin
  setOnOff := setOnOff
  setLevel := setLevel
  identify := identify
  pollEvents := pollEvents

end SimulatedDongle

end Switchboard
