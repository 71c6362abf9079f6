import Switchboard.Json.Decoder

/-!
The configuration of the device protocols. Everything has a default except what names a switch or a
device.
-/

namespace Switchboard

structure SwitchConfig where
  name : String
  onCode : UInt32
  offCode : UInt32
  deriving DecidableEq, Repr, Inhabited

structure RfConfig where
  enabled : Bool := true
  /-- The table that every new instance starts with. -/
  switches : List SwitchConfig := []
  deriving DecidableEq, Repr, Inhabited

structure DeviceEntry where
  id : String
  name : String
  dimmable : Bool := false
  deriving DecidableEq, Repr, Inhabited

structure ZigBeeConfig where
  enabled : Bool := true
  channel : UInt8 := 15
  devices : List DeviceEntry := []
  deriving DecidableEq, Repr, Inhabited

structure DeviceConfig where
  rf : RfConfig := {}
  zigbee : ZigBeeConfig := {}
  deriving DecidableEq, Repr, Inhabited

namespace SwitchConfig

open Json

def shape : RecordShape SwitchConfig where
  name := "SwitchConfig"
  fields := [
    .mandatory "name" .text fun name s => { s with name },
    .mandatory "on_code" (.natural 32) fun code s => { s with onCode := .ofNat code },
    .mandatory "off_code" (.natural 32) fun code s => { s with offCode := .ofNat code }]
  blank := ⟨"", 0, 0⟩

def toValue (s : SwitchConfig) : Value :=
  .object [("name", .text s.name), ("on_code", .number (.integer s.onCode.toNat)),
    ("off_code", .number (.integer s.offCode.toNat))]

end SwitchConfig

namespace RfConfig

open Json

def shape : RecordShape RfConfig where
  name := "RfConfig"
  fields := [
    .withDefault "enabled" .boolean fun enabled c => { c with enabled },
    .withDefault "switches" (.list SwitchConfig.shape.decoder) fun switches c => { c with switches }]
  blank := {}

def toValue (c : RfConfig) : Value :=
  .object [("enabled", .boolean c.enabled), ("switches", .list (c.switches.map SwitchConfig.toValue))]

end RfConfig

namespace DeviceEntry

open Json

def shape : RecordShape DeviceEntry where
  name := "ZigbeeDeviceConfig"
  fields := [
    .mandatory "id" .text fun id d => { d with id },
    .mandatory "name" .text fun name d => { d with name },
    .withDefault "dimmable" .boolean fun dimmable d => { d with dimmable }]
  blank := { id := "", name := "" }

def toValue (d : DeviceEntry) : Value :=
  .object [("id", .text d.id), ("name", .text d.name), ("dimmable", .boolean d.dimmable)]

end DeviceEntry

namespace ZigBeeConfig

open Json

def shape : RecordShape ZigBeeConfig where
  name := "ZigbeeConfig"
  fields := [
    .withDefault "enabled" .boolean fun enabled c => { c with enabled },
    .withDefault "channel" (.natural 8) fun channel c => { c with channel := .ofNat channel },
    .withDefault "devices" (.list DeviceEntry.shape.decoder) fun devices c => { c with devices }]
  blank := {}

def toValue (c : ZigBeeConfig) : Value :=
  .object [("enabled", .boolean c.enabled), ("channel", .number (.integer c.channel.toNat)),
    ("devices", .list (c.devices.map DeviceEntry.toValue))]

def channelIsValid (c : ZigBeeConfig) : Bool :=
  11 ≤ c.channel && c.channel ≤ 26

end ZigBeeConfig

namespace DeviceConfig

open Json

def shape : RecordShape DeviceConfig where
  name := "DeviceConfig"
  fields := [
    .withDefault "rf" RfConfig.shape.decoder fun rf c => { c with rf },
    .withDefault "zigbee" ZigBeeConfig.shape.decoder fun zigbee c => { c with zigbee }]
  blank := {}

def toValue (c : DeviceConfig) : Value :=
  .object [("rf", c.rf.toValue), ("zigbee", c.zigbee.toValue)]

def toJson (c : DeviceConfig) : String :=
  c.toValue.compact

/-- Reads the JSON text of a configuration; where it is not one, the message says why. -/
def ofJson (source : String) : Except String DeviceConfig :=
  match shape.decoder.decode source with
  | .ok c => .ok c
  | .error fault => .error (fault.message source)

end DeviceConfig

end Switchboard
