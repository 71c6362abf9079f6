import Switchboard.System.CommandLine
import Switchboard.System.Address
import Switchboard.Toml.Document
import Switchboard.Device.Config
import Switchboard.Payload.Frame

/-!
The settings of the daemon. The command line wins over the configuration file, and the file over the
defaults; the metrics are served on the address that the daemon is bound to.
-/

namespace Switchboard

def daemonOptions : List OptionSpec := [
  ⟨"port", none, .port⟩,
  ⟨"bind", none, .text⟩,
  ⟨"service-name", none, .text⟩,
  ⟨"discovery-dir", none, .path⟩,
  ⟨"config", some 'c', .path⟩,
  ⟨"log-level", none, .text⟩,
  ⟨"metrics-port", none, .port⟩,
  ⟨"no-rf", none, .flag⟩,
  ⟨"no-zigbee", none, .flag⟩]

structure ServerSection where
  bind : Option String := none
  port : Option UInt16 := none
  serviceName : Option String := none
  discoveryDir : Option String := none
  /-- In milliseconds. -/
  flushDelay : Option UInt64 := none
  metricsPort : Option UInt16 := none
  deriving DecidableEq, Repr, Inhabited

structure ConfigFile where
  server : ServerSection := {}
  rf : RfConfig := {}
  zigbee : ZigBeeConfig := {}
  deriving DecidableEq, Repr, Inhabited

namespace ServerSection

open Json

def shape : RecordShape ServerSection where
  name := "ServerSection"
  fields := [
    .withDefault "bind" .text fun bind s => { s with bind := some bind },
    .withDefault "port" (.natural 16) fun port s => { s with port := some (.ofNat port) },
    .withDefault "service_name" .text fun name s => { s with serviceName := some name },
    .withDefault "discovery_dir" .text fun dir s => { s with discoveryDir := some dir },
    .withDefault "flush_delay_ms" (.natural 64) fun ms s => { s with flushDelay := some (.ofNat ms) },
    .withDefault "metrics_port" (.natural 16) fun port s => { s with metricsPort := some (.ofNat port) }]
  blank := {}

end ServerSection

namespace ConfigFile

open Json

def shape : RecordShape ConfigFile where
  name := "FileConfig"
  fields := [
    .withDefault "server" ServerSection.shape.decoder fun server c => { c with server },
    .withDefault "rf" RfConfig.shape.decoder fun rf c => { c with rf },
    .withDefault "zigbee" ZigBeeConfig.shape.decoder fun zigbee c => { c with zigbee }]
  blank := {}

def ofText? (source : String) : Option ConfigFile := do
  let value ← Toml.read source
  (shape.decoder.ofValue .ignored value).toOption

end ConfigFile

/-- Why there are no settings. -/
inductive SettingsError
  | options (cause : OptionError)
  | unreadableFile (path : String)
  | invalidFile (path : String)
  | invalidBind (host : String) (port : UInt16)
  deriving DecidableEq, Repr

/-- The words for a failure; a refused command line is explained by what it is. -/
def SettingsError.message : SettingsError → String
  | options _ => "Invalid command line"
  | unreadableFile path => "Failed to read config file " ++ path
  | invalidFile path => "Invalid config file " ++ path
  | invalidBind host port => "Invalid bind address " ++ host ++ ":" ++ toString port

structure Settings where
  bind : SocketAddress
  serviceName : String
  /-- In milliseconds. -/
  flushDelay : UInt64
  /-- The longest line in bytes. -/
  maxLine : Nat
  devices : DeviceConfig
  metrics : Option SocketAddress
  /-- The folder of service files; none means the usual place. -/
  discoveryDir : Option String
  logLevel : String
  deriving DecidableEq, Repr

namespace Settings

/-- The settings that a command line and a configuration file give. -/
def resolve (o : GivenOptions) (file : ConfigFile) : Except SettingsError Settings :=
  let server := file.server
  let host := ((o.value? "bind") <|> server.bind).getD "0.0.0.0"
  let port := ((o.port? "port") <|> server.port).getD 6390
  match SocketAddress.ofText? (host ++ ":" ++ toString port) with
  | none => .error (.invalidBind host port)
  | some bind =>
    let rf := if o.has "no-rf" then { file.rf with enabled := false } else file.rf
    let zigbee := if o.has "no-zigbee" then { file.zigbee with enabled := false } else file.zigbee
    .ok {
      bind
      serviceName := ((o.value? "service-name") <|> server.serviceName).getD "switchboard"
      flushDelay := server.flushDelay.getD 100
      maxLine := Framer.defaultLimit
      devices := { rf, zigbee }
      metrics := ((o.port? "metrics-port") <|> server.metricsPort).map fun port => { ip := bind.ip, port }
      discoveryDir := (o.value? "discovery-dir") <|> server.discoveryDir
      logLevel := (o.value? "log-level").getD "info" }

/-- Reads a configuration file; it has to be there and to be text. -/
def readFile (path : String) (content : Option (List UInt8)) : Except SettingsError ConfigFile :=
  match content.bind textOfBytes? with
  | none => .error (.unreadableFile path)
  | some source =>
    match ConfigFile.ofText? source with
    | none => .error (.invalidFile path)
    | some file => .ok file

/-- The settings that arguments and the content of a named configuration file give; the arguments are
checked before the file and the file before the address. -/
def read (arguments : List String) (path : String) (file : Option (Option (List UInt8))) :
    Except SettingsError Settings :=
  match GivenOptions.read daemonOptions arguments with
  | .error cause => .error (.options cause)
  | .ok o =>
    match file with
    | none => resolve o {}
    | some content =>
      match readFile path content with
      | .error e => .error e
      | .ok file => resolve o file

/-- The host under which controllers on this machine reach the daemon. -/
def advertisedHost (s : Settings) : String :=
  if s.bind.ip.isUnspecified then "127.0.0.1" else s.bind.ip.text

end Settings

def version : String := "0.3.0"

def banner (version : String) : String :=
  "\n  ╔═╗╦ ╦╔╗\n  ╚═╗║║║╠╩╗\n  ╚═╝╚╩╝╚═╝\n  Switchboard\n  Version " ++ version ++ "\n\n"

end Switchboard
