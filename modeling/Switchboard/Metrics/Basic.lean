import Switchboard.Metrics.Histogram

/-!
What the server counts. Counters run round at `2 ^ 64`; each labelled one appears when it is first used.
-/

namespace Switchboard

abbrev Labelled (α : Type) := List (String × α)

/-- Changes the value of a label, which starts from a given one. -/
def Labelled.change {α : Type} (start : α) (label : String) (f : α → α) : Labelled α → Labelled α
  | [] => [(label, f start)]
  | (other, value) :: rest =>
    if other == label then (other, f value) :: rest else (other, value) :: change start label f rest

structure Metrics where
  connectionsTotal : UInt64 := 0
  connectionsActive : Int64 := 0
  /-- The requests handled, by action. -/
  payloads : Labelled UInt64 := []
  /-- How long requests took, by action. -/
  durations : Labelled Histogram := []
  /-- How often each protocol was chosen. -/
  selections : Labelled UInt64 := []
  /-- The lines dropped for their length. -/
  oversized : UInt64 := 0
  /-- The messages that protocols sent on their own. -/
  flushed : UInt64 := 0
  bytesReceived : UInt64 := 0
  bytesSent : UInt64 := 0
  deriving DecidableEq, Repr, Inhabited

namespace Metrics

def connect (m : Metrics) : Metrics :=
  { m with connectionsTotal := m.connectionsTotal + 1, connectionsActive := m.connectionsActive + 1 }

def disconnect (m : Metrics) : Metrics :=
  { m with connectionsActive := m.connectionsActive - 1 }

def handle (m : Metrics) (action : String) (seconds : Binary64) : Metrics :=
  { m with
    payloads := Labelled.change 0 action (· + 1) m.payloads
    durations := Labelled.change .empty action (·.observe seconds) m.durations }

def select (m : Metrics) (protocol : String) : Metrics :=
  { m with selections := Labelled.change 0 protocol (· + 1) m.selections }

/-- Counts bytes. -/
def transfer (m : Metrics) (received sent : UInt64) : Metrics :=
  { m with bytesReceived := m.bytesReceived + received, bytesSent := m.bytesSent + sent }

def drop (m : Metrics) (lines : UInt64) : Metrics :=
  { m with oversized := m.oversized + lines }

def flush (m : Metrics) (messages : UInt64) : Metrics :=
  { m with flushed := m.flushed + messages }

end Metrics

end Switchboard
