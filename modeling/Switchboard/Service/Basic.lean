/-!
Services: a name under which a server can be found, and the address where it listens.
-/

namespace Switchboard

structure Service where
  name : String
  host : String
  port : UInt16
  deriving DecidableEq, Repr, Inhabited

namespace Service

def address (s : Service) : String :=
  s.host ++ ":" ++ toString s.port

def describe (s : Service) : String :=
  s.name ++ " (" ++ s.address ++ ")"

end Service

/-- Why serving or finding services failed. -/
inductive ServiceError
  | io (reason : String)
  | discovery (reason : String)
  | alreadyRunning
  deriving DecidableEq, Repr

def ServiceError.message : ServiceError → String
  | io reason => "IO error: " ++ reason
  | discovery reason => "Discovery error: " ++ reason
  | alreadyRunning => "Server is already running"

end Switchboard
