import Switchboard.System.CommandLine

/-!
The options of the controller.
-/

namespace Switchboard

def controllerOptions : List OptionSpec := [
  ⟨"host", some 'H', .text⟩,
  ⟨"port", some 'p', .port⟩,
  ⟨"discovery-dir", none, .path⟩,
  ⟨"service", some 's', .text⟩,
  ⟨"state", none, .path⟩,
  ⟨"command", some 'c', .text⟩,
  ⟨"quiet", some 'q', .flag⟩,
  ⟨"verbose", some 'v', .flag⟩]

structure ControllerOptions where
  /-- Where to connect when the service is not advertised. -/
  host : String
  port : UInt16
  discoveryDir : Option String
  service : Option String
  /-- The file that remembers the last service. -/
  state : Option String
  /-- The actions to run instead of reading input. -/
  command : Option String
  quiet : Bool
  verbose : Bool
  deriving DecidableEq, Repr

def ControllerOptions.read (arguments : List String) : Except OptionError ControllerOptions :=
  (GivenOptions.read controllerOptions arguments).map fun o =>
    { host := (o.value? "host").getD "127.0.0.1"
      port := (o.port? "port").getD 6390
      discoveryDir := o.value? "discovery-dir"
      service := o.value? "service"
      state := o.value? "state"
      command := o.value? "command"
      quiet := o.has "quiet"
      verbose := o.has "verbose" }

end Switchboard
