import Switchboard.Service.Lookup

/-!
Where the controller finds a service: in the shared directory, or at the host and the port it was given
if the service is not advertised there.
-/

namespace Switchboard

/-- Why a service was not located. -/
inductive LocateError
  /-- The shared directory could not be opened. -/
  | directory (path : String) (cause : ServiceError)
  /-- Looking the name up failed for another reason than its absence. -/
  | lookUp (name : String) (cause : ServiceError)
  deriving DecidableEq, Repr

namespace LocateError

def chain (cause : ServiceError) : String :=
  match cause with
  | .io reason => cause.message ++ ": " ++ reason
  | _ => cause.message

/-- The words for a service that was not located. -/
def message : LocateError → String
  | directory path cause => "Failed to open discovery directory " ++ path ++ ": " ++ chain cause
  | lookUp name cause => "Failed to look up " ++ name ++ ": " ++ chain cause

end LocateError

/-- Locates a service; gives the directory in which to look it up again and what it says now. The folder
is what opening the shared directory gave. -/
def locate (path : String) (opened : Except SystemError Folder) (name host : String) (port : UInt16) :
    Except LocateError (ServiceDirectory × Service) :=
  match opened with
  | .error e => .error (.directory path (SharedDirectory.systemFailure e))
  | .ok folder =>
    let shared : SharedDirectory := { path, host, pid := 0 }
    match shared.resolve folder name with
    | .ok service => .ok (.shared shared folder, service)
    | .error (.discovery _) =>
      let service : Service := { name, host, port }
      .ok (.inProcess (({ host } : LocalDirectory).insert service), service)
    | .error e => .error (.lookUp name e)

end Switchboard
