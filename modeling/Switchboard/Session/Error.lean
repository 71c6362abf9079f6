import Switchboard.Service.Basic
import Switchboard.Store.Basic

/-!
Why an action of a client session fails. A failure to reach a service keeps its cause when it came from
the system and is a failure of discovery otherwise.
-/

namespace Switchboard

/-- Why an action of a session failed. -/
inductive SessionError
  | io (reason : String)
  | notConnected
  | unknownService (name : String)
  | noTarget
  | storage (cause : StoreError)
  | discovery (reason : String)
  deriving DecidableEq, Repr

namespace SessionError

def message : SessionError → String
  | io reason => "IO error: " ++ reason
  | notConnected => "Not connected"
  | unknownService name => "Unknown service: " ++ name
  | noTarget => "No previous target to connect to"
  | storage cause => "Storage error: " ++ cause.message
  | discovery reason => "Discovery error: " ++ reason

def ofService : ServiceError → SessionError
  | .io reason => io reason
  | other => discovery other.message

end SessionError

end Switchboard
