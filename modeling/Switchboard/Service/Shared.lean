import Switchboard.Service.Local
import Switchboard.Service.Record
import Switchboard.System.Folder
import Switchboard.Payload.Frame

/-!
The directory of services that processes share through a folder, one file for each service. The name of
the file keeps letters, digits, hyphens and underscores of the service's name, so two names can share a
file; looking a name up compares it with the name in the file.
-/

namespace Switchboard

structure SharedDirectory where
  /-- The path of the folder, for messages. -/
  path : String
  host : String
  pid : UInt32
  /-- The streams opened so far, by number. -/
  streams : List ServiceStream := []
  deriving DecidableEq, Repr

namespace SharedDirectory

/-- What stands for a character of a name in the name of its file. -/
def stemChar (c : Char) : Char :=
  if c.isAlphanum || c == '-' || c == '_' then c else '_'

/-- The name of the file of a service, without its ending. -/
def stem (name : String) : String :=
  String.ofList (name.toList.map stemChar)

def fileName (name : String) : String :=
  stem name ++ ".json"

/-- The name under which a file is written before it takes its place. -/
def draftName (d : SharedDirectory) (name : String) : String :=
  let base := if stem name == "" then ".json" else stem name
  base ++ ".json." ++ toString d.pid ++ ".tmp"

def systemFailure (e : SystemError) : ServiceError :=
  .io e.message

def advertise (d : SharedDirectory) (f : Folder) (now : UInt64) (name : String) (port : UInt16) :
    Except ServiceError Unit × SharedDirectory × Folder :=
  let service : Service := { name, host := d.host, port }
  let record : ServiceRecord := { service, pid := d.pid, advertisedAt := now }
  match f.write (d.draftName name) record.toJson.toUTF8.toList with
  | .error e => (.error (systemFailure e), d, f)
  | .ok f =>
    match f.rename (d.draftName name) (fileName name) with
    | .error e => (.error (systemFailure e), d, f)
    | .ok f => (.ok (), { d with streams := d.streams.map (·.push service) }, f)

def withdraw (f : Folder) (name : String) : Except ServiceError Unit × Folder :=
  match f.remove (fileName name) with
  | .ok f => (.ok (), f)
  | .error .noSuchFile => (.ok (), f)
  | .error e => (.error (systemFailure e), f)

def readService (d : SharedDirectory) (content : List UInt8) (file : String) :
    Except ServiceError Service :=
  match textOfBytes? content with
  | none => .error (.io "stream did not contain valid UTF-8")
  | some text =>
    match ServiceRecord.ofJson text with
    | .ok record => .ok record.service
    | .error reason => .error (.discovery (d.path ++ "/" ++ file ++ ": " ++ reason))

def resolve (d : SharedDirectory) (f : Folder) (name : String) : Except ServiceError Service :=
  match f.read (fileName name) with
  | .error .noSuchFile => .error (noService name)
  | .error e => .error (systemFailure e)
  | .ok content =>
    match d.readService content (fileName name) with
    | .error e => .error e
    | .ok service => if service.name == name then .ok service else .error (noService name)

def isServiceFile (file : String) : Bool :=
  file.endsWith ".json" && file != ".json"

/-- The service of an entry, if it holds one. -/
def serviceOf? (d : SharedDirectory) (entry : String × FolderEntry) : Option Service :=
  match entry with
  | (file, .file content) =>
    if isServiceFile file then (d.readService content file).toOption else none
  | (_, .folder) => none

/-- The services known, sorted by name. -/
def known (d : SharedDirectory) (f : Folder) : List Service :=
  sortByName (f.entries.filterMap d.serviceOf?)

def discover (d : SharedDirectory) (f : Folder) : Nat × SharedDirectory :=
  (d.streams.length, { d with streams := d.streams ++ [{ known := d.known f }] })

def next (d : SharedDirectory) (stream : Nat) : Arrival × SharedDirectory :=
  match d.streams[stream]? with
  | none => (.closed, d)
  | some s =>
    let (arrival, s) := s.next
    (arrival, { d with streams := d.streams.set stream s })

def drop (d : SharedDirectory) : SharedDirectory :=
  { d with streams := d.streams.map fun s => { s with closed := true } }

end SharedDirectory

end Switchboard
