import Switchboard.Server.Basic
import Switchboard.Daemon.Settings
import Switchboard.Device.Registry

/-!
The program. It reads its settings from the command line and the configuration file and serves, with
simulated hardware, the controller at its standard input and output.
-/

namespace Switchboard

abbrev DaemonHardware := Hardware SimulatedRadio SimulatedDongle

/-- The name of the only connection. -/
def consoleName : String := "console"

/-- The server of some settings, with its only connection. -/
def Settings.server (s : Settings) : Server DaemonHardware Device :=
  ({ registry := s.devices.registry, serviceName := s.serviceName, maxLine := s.maxLine } :
    Server DaemonHardware Device).accept consoleName

/-- Handles bytes and lets the hardware do what they ask for; gives what is written. -/
def Server.turn (s : Server DaemonHardware Device) (bytes : List UInt8) (hw : DaemonHardware) :
    List Payload × Server DaemonHardware Device × DaemonHardware :=
  let (replies, s, hw) := s.read consoleName bytes (.zero false) hw
  let (sent, hw) := hw.settleRadio.settleDongle.takeOutbox consoleName
  let s := sent.foldl (fun s p => (s.emit consoleName p).collect consoleName) s
  let (late, s) := s.expire consoleName
  (replies ++ late, s, hw)

/-- The content of the configuration file that the arguments name, if they name one. -/
def configFile (arguments : List String) : IO (String × Option (Option (List UInt8))) := do
  match (GivenOptions.read daemonOptions arguments).toOption.bind (·.value? "config") with
  | none => return ("", none)
  | some path =>
    try
      let content ← IO.FS.readBinFile path
      return (path, some (some content.toList))
    catch _ => return (path, some none)

/-- Serves the connection line by line until it ends. -/
partial def serve (input output : IO.FS.Stream) (s : Server DaemonHardware Device)
    (hw : DaemonHardware) : IO Unit := do
  let line ← input.getLine
  if line.isEmpty then return
  let (written, s, hw) := s.turn line.toUTF8.toList hw
  for p in written do
    output.write ⟨p.encodeLine.toArray⟩
  output.flush
  if s.size == 0 then return
  serve input output s hw

end Switchboard

/-- Serves with the settings that the arguments and the configuration file give. -/
def main (arguments : List String) : IO UInt32 := do
  let (path, file) ← Switchboard.configFile arguments
  let errors ← IO.getStderr
  match Switchboard.Settings.read arguments path file with
  | .error e =>
    errors.putStrLn ("Error: " ++ e.message)
    return 1
  | .ok settings =>
    errors.putStr (Switchboard.banner Switchboard.version)
    Switchboard.serve (← IO.getStdin) (← IO.getStdout) settings.server
      (Switchboard.Hardware.simulated settings.devices)
    return 0
