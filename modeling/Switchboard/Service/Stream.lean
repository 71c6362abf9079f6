import Switchboard.Service.Basic

/-!
Browsing: a stream gives the services known when it was opened and then those advertised since. It
holds at most 64 advertisements that were not read; when more come, the oldest are lost.
-/

namespace Switchboard

def streamCapacity : Nat := 64

structure ServiceStream where
  /-- The services known at the start and not yet read. -/
  known : List Service
  /-- The advertisements not yet read, the oldest first. -/
  updates : List Service := []
  /-- Holds once the directory is gone. -/
  closed : Bool := false
  deriving DecidableEq, Repr

inductive Arrival
  | found (service : Service)
  /-- There is nothing now. -/
  | pending
  /-- There will be nothing any more. -/
  | closed
  deriving DecidableEq, Repr

namespace ServiceStream

/-- Adds an advertisement, losing the oldest unread one when there are too many. -/
def push (s : ServiceStream) (service : Service) : ServiceStream :=
  let updates := s.updates ++ [service]
  { s with updates := updates.drop (updates.length - streamCapacity) }

def next (s : ServiceStream) : Arrival × ServiceStream :=
  match s.known, s.updates with
  | service :: known, _ => (.found service, { s with known })
  | [], service :: updates => (.found service, { s with updates })
  | [], [] => (if s.closed then .closed else .pending, s)

end ServiceStream

def sortByName (services : List Service) : List Service :=
  services.mergeSort fun a b => decide (a.name ≤ b.name)

end Switchboard
