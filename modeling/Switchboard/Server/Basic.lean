import Switchboard.Server.Live
import Switchboard.Metrics.Basic
import Switchboard.Association
import Switchboard.Service.Local

/-!
The server: the connections it serves and what it counts. A connection is in the registry from its
acceptance to its end, which is a goodbye, the end of the controller or of the server. A server is run
once; while it runs its name is advertised.
-/

namespace Switchboard

/-- How far a server has come. -/
inductive ServerPhase
  | bound
  | running
  | stopped
  deriving DecidableEq, Repr, Inhabited

structure Server (W I : Type) where
  registry : Registry W I
  /-- The name under which the server is advertised. -/
  serviceName : String := "switchboard"
  /-- The longest line in bytes. -/
  maxLine : Nat := Framer.defaultLimit
  phase : ServerPhase := .bound
  /-- The connections that have not ended, each under its name. -/
  live : List (String × Live W I) := []
  metrics : Metrics := {}

namespace Server

variable {W I : Type}

def size (s : Server W I) : Nat :=
  s.live.length

def protocols (s : Server W I) : List (Option String) :=
  s.live.map fun entry => entry.2.shown

/-- Puts a connection in the place of the one with its name. -/
def setLive (s : Server W I) (name : String) (l : Live W I) : Server W I :=
  { s with live := s.live.map fun entry => if entry.1 == name then (name, l) else entry }

/-- Changes a connection, if it is live. -/
def changeLive (s : Server W I) (name : String) (f : Live W I → Live W I) : Server W I :=
  match s.live.lookup name with
  | none => s
  | some l => s.setLive name (f l)

/-- Begins to serve, advertising the name on a port. -/
def run (s : Server W I) (directory : Option LocalDirectory) (port : UInt16) :
    Except ServiceError (Server W I × Option LocalDirectory) :=
  match s.phase with
  | .bound => .ok ({ s with phase := .running }, directory.map (·.advertise s.serviceName port))
  | _ => .error .alreadyRunning

/-- Accepts a connection under a name that no other one has. -/
def accept (s : Server W I) (name : String) : Server W I :=
  { s with
    live := s.live ++ [(name, .start s.registry name s.maxLine)]
    metrics := s.metrics.connect }

def emit (s : Server W I) (name : String) (p : Payload) : Server W I :=
  s.changeLive name (·.emit p)

/-- Collects the oldest message of a connection's outbox. -/
def collect (s : Server W I) (name : String) : Server W I :=
  s.changeLive name (·.collect)

/-- The number of bytes of some lines. -/
def bytesOf (ps : List Payload) : UInt64 :=
  .ofNat (ps.foldl (fun n p => n + p.encodeLine.length) 0)

/-- Counts what came of bytes from a controller, each request with the time it took. -/
def count (m : Metrics) (received : Nat) (seconds : Binary64) (h : Handled) : Metrics :=
  let m := h.actions.foldl (fun m action => m.handle action seconds) m
  let m := (m.transfer (.ofNat received) (bytesOf h.replies)).drop (.ofNat h.dropped)
  match h.chosen with
  | none => m
  | some key => m.select key

variable [Protocol W I]

/-- Ends a connection, if it is live. -/
def finish (s : Server W I) (name : String) (w : W) : Server W I × W :=
  match s.live.lookup name with
  | none => (s, w)
  | some l =>
    ({ s with
        live := Association.erase name s.live
        metrics := s.metrics.disconnect },
      l.close w)

/-- Handles bytes from a controller; gives what is written at once. -/
def read (s : Server W I) (name : String) (bytes : List UInt8) (seconds : Binary64) (w : W) :
    List Payload × Server W I × W :=
  match s.live.lookup name with
  | none => ([], s, w)
  | some l =>
    let (handled, l, w) := l.read bytes w
    let s := { s.setLive name l with metrics := count s.metrics bytes.length seconds handled }
    if l.ended then
      let (s, w) := s.finish name w
      (handled.replies, s, w)
    else (handled.replies, s, w)

/-- Lets the timer of a connection expire; gives what is written. -/
def expire (s : Server W I) (name : String) : List Payload × Server W I :=
  match s.live.lookup name with
  | none => ([], s)
  | some l =>
    let (late, flushed) := l.expire
    if l.armed then
      (late,
        { s.setLive name flushed with
          metrics := (s.metrics.flush (.ofNat late.length)).transfer 0 (bytesOf late) })
    else ([], s)

/-- Ends every connection and withdraws the name. -/
def stop (s : Server W I) (directory : Option LocalDirectory) (w : W) :
    Server W I × Option LocalDirectory × W :=
  let (s, w) := s.live.foldl (fun (s, w) entry => s.finish entry.1 w) (s, w)
  ({ s with phase := .stopped }, directory.map (·.withdraw s.serviceName), w)

end Server

end Switchboard
