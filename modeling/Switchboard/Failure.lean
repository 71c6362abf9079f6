/-!
What can go wrong with protocols, their arguments and the hardware behind them.
-/

namespace Switchboard

inductive Failure
  | protocolUnavailable (reason : String)
  | unknownSelector (selector : String)
  | invalidArguments (command reason : String)
  | transportClosed (name : String)
  | hardware (reason : String)
  | serialization (reason : String)
  deriving DecidableEq, Repr

def Failure.message : Failure → String
  | protocolUnavailable reason => "Protocol unavailable: " ++ reason
  | unknownSelector selector => "Unknown protocol selector: " ++ selector
  | invalidArguments command reason => "Invalid arguments for " ++ command ++ ": " ++ reason
  | transportClosed name => "Transport closed: " ++ name
  | hardware reason => "Hardware error: " ++ reason
  | serialization reason => "Serialization error: " ++ reason

end Switchboard
