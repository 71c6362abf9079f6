import Switchboard.Service.Stream

/-!
The directory of services inside one process.
-/

namespace Switchboard

/-- The error of looking up a name that is not advertised. -/
def noService (name : String) : ServiceError :=
  .discovery ("no service named " ++ name)

structure LocalDirectory where
  host : String := "127.0.0.1"
  /-- The services advertised; names are distinct. -/
  services : List Service := []
  /-- The streams opened so far, by number. -/
  streams : List ServiceStream := []
  deriving DecidableEq, Repr

namespace LocalDirectory

def without (name : String) (services : List Service) : List Service :=
  services.filter fun s => s.name != name

/-- Adds a service in place of one with its name, and tells the streams. -/
def insert (d : LocalDirectory) (service : Service) : LocalDirectory :=
  { d with
    services := service :: without service.name d.services
    streams := d.streams.map (·.push service) }

def advertise (d : LocalDirectory) (name : String) (port : UInt16) : LocalDirectory :=
  d.insert { name, host := d.host, port }

def withdraw (d : LocalDirectory) (name : String) : LocalDirectory :=
  { d with services := without name d.services }

def resolve (d : LocalDirectory) (name : String) : Except ServiceError Service :=
  match d.services.find? fun s => s.name == name with
  | some service => .ok service
  | none => .error (noService name)

/-- The services known, sorted by name. -/
def known (d : LocalDirectory) : List Service :=
  sortByName d.services

def discover (d : LocalDirectory) : Nat × LocalDirectory :=
  (d.streams.length, { d with streams := d.streams ++ [{ known := d.known }] })

def next (d : LocalDirectory) (stream : Nat) : Arrival × LocalDirectory :=
  match d.streams[stream]? with
  | none => (.closed, d)
  | some s =>
    let (arrival, s) := s.next
    (arrival, { d with streams := d.streams.set stream s })

def drop (d : LocalDirectory) : LocalDirectory :=
  { d with streams := d.streams.map fun s => { s with closed := true } }

end LocalDirectory

end Switchboard
