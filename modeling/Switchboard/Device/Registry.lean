import Switchboard.Device.KnockKnock
import Switchboard.Device.RfSwitch
import Switchboard.Device.ZigBee
import Switchboard.Router.Connection

/-!
The protocols that the server offers: jokes always, switches and the ZigBee network when enabled.
-/

namespace Switchboard

inductive Device
  | knockKnock (k : KnockKnock)
  | rfSwitch (r : RfSwitch)
  | zigBee (z : ZigBee)
  deriving DecidableEq, Repr

namespace Device

variable {R D : Type}

def key : Device → String
  | knockKnock _ => knockKnockKey
  | rfSwitch _ => rfSwitchKey
  | zigBee _ => zigBeeKey

def process (d : Device) (p : Payload) (h : Hardware R D) : Payload × Device × Hardware R D :=
  match d with
  | knockKnock k =>
    let (reply, k) := k.process p
    (reply, knockKnock k, h)
  | rfSwitch r =>
    let (reply, r, h) := r.process p h
    (reply, rfSwitch r, h)
  | zigBee z =>
    let (reply, z, h) := z.process p h
    (reply, zigBee z, h)

def close (d : Device) (h : Hardware R D) : Hardware R D :=
  match d with
  | knockKnock _ => h
  | rfSwitch r => r.close h
  | zigBee z => z.close h

instance : Protocol (Hardware R D) Device where
  key := key
  process := process
  close := close

def startRfSwitch (config : RfConfig) (connection : String) (h : Hardware R D) :
    Except Failure (Device × Hardware R D) :=
  let (r, h) := RfSwitch.start config.switches connection h
  .ok (rfSwitch r, h)

/-- Starts the ZigBee protocol, if the channel can be used. -/
def startZigBee (config : ZigBeeConfig) (connection : String) (h : Hardware R D) :
    Except Failure (Device × Hardware R D) :=
  if config.channelIsValid then
    let (z, h) := ZigBee.start config connection h
    .ok (zigBee z, h)
  else
    .error (.protocolUnavailable
      ("ZigBee channel " ++ toString config.channel ++ " is outside 11-26"))

end Device

def DeviceConfig.registry {R D : Type} (config : DeviceConfig) : Registry (Hardware R D) Device :=
  let registry : Registry (Hardware R D) Device :=
    Registry.register {} "KnockKnock" fun _ h => .ok (.knockKnock {}, h)
  let registry :=
    if config.rf.enabled then registry.register "RfSwitch" (Device.startRfSwitch config.rf)
    else registry
  if config.zigbee.enabled then registry.register "ZigBee" (Device.startZigBee config.zigbee)
  else registry

end Switchboard
