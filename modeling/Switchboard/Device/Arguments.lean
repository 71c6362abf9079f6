import Switchboard.Argument.Negotiation

/-!
The arguments of the device commands. The schema of a command that concerns one switch or device can
offer a default for it.
-/

namespace Switchboard

structure SwitchArguments where
  switch : String
  deriving DecidableEq, Repr

namespace SwitchArguments

def schemaFor (command description default : String) : ArgumentSchema :=
  { command, description, usage := command ++ " <switch>"
    entries := [{ key := "switch", value := default }] }

instance : CommandArguments SwitchArguments where
  schema := schemaFor "SwitchOn" "Turn a switch on" ""
  ofValues values := do
    let switch ← values.require "switch"
    return { switch }

end SwitchArguments

structure AddSwitchArguments where
  name : String
  onCode : UInt32
  offCode : UInt32
  deriving DecidableEq, Repr

instance : CommandArguments AddSwitchArguments where
  schema :=
    { command := "AddSwitch"
      description := "Teach a new switch by its on and off codes"
      usage := "AddSwitch <name> <on_code> <off_code>"
      entries := [{ key := "name" }, { key := "on_code" }, { key := "off_code" }] }
  ofValues values := do
    let name ← values.require "name"
    let onCode ← values.parseAs (Decimal.unsigned? 32) "on_code"
    let offCode ← values.parseAs (Decimal.unsigned? 32) "off_code"
    return { name, onCode := .ofNat onCode, offCode := .ofNat offCode }

structure DeviceArguments where
  device : String
  deriving DecidableEq, Repr

namespace DeviceArguments

def schemaFor (command description default : String) : ArgumentSchema :=
  { command, description, usage := command ++ " <device>"
    entries := [{ key := "device", value := default }] }

instance : CommandArguments DeviceArguments where
  schema := schemaFor "On" "Switch a device on" ""
  ofValues values := do
    let device ← values.require "device"
    return { device }

end DeviceArguments

structure LevelArguments where
  device : String
  level : UInt8
  deriving DecidableEq, Repr

namespace LevelArguments

/-- The schema of the command, with a default device. -/
def schemaFor (default : String) : ArgumentSchema :=
  { command := "SetLevel"
    description := "Set the brightness of a dimmable device"
    usage := "SetLevel <device> <0-255>"
    entries := [{ key := "device", value := default }, { key := "level", value := "128" }] }

instance : CommandArguments LevelArguments where
  schema := schemaFor ""
  ofValues values := do
    let device ← values.require "device"
    let level ← values.parseAs (Decimal.unsigned? 8) "level"
    return { device, level := .ofNat level }

end LevelArguments

/-- Says for how long the network is open for new devices. -/
structure JoinArguments where
  seconds : UInt16
  deriving DecidableEq, Repr

instance : CommandArguments JoinArguments where
  schema :=
    { command := "PermitJoin"
      description := "Open the network for new devices"
      usage := "PermitJoin <seconds>"
      entries := [{ key := "seconds", value := "60" }] }
  ofValues values := do
    let seconds ← values.parseAs (Decimal.unsigned? 16) "seconds"
    return { seconds := .ofNat seconds }

end Switchboard
