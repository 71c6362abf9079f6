import Switchboard.Session.Basic
import Switchboard.System.Network

/-!
Connecting a session. A call to connect goes through stages, between which other calls may act on the
session: a service is looked up, becomes the target and is remembered; then an attempt is started, and at
last the network answers it.
-/

namespace Switchboard

/-- How far a call to connect has come. -/
inductive ConnectStage
  /-- The service is to be looked up. -/
  | resolving (name : String)
  /-- The service is to become the target. -/
  | aiming (service : Service) (name : String)
  /-- The service is to be remembered. -/
  | remembering (service : Service) (name : String)
  /-- The attempt is to be started. -/
  | starting (address : String)
  /-- The attempt waits for the network. -/
  | waiting (address : String) (attempt : Nat)
  /-- The call is over; it handed some messages to the connection or failed. -/
  | finished (outcome : Except SessionError (List Payload))

namespace ConnectStage

/-- The greatest number of steps that are left. -/
def remaining : ConnectStage → Nat
  | resolving _ => 5
  | aiming .. => 4
  | remembering .. => 3
  | starting _ => 2
  | waiting .. => 1
  | finished _ => 0

def outcome : ConnectStage → Except SessionError (List Payload)
  | finished outcome => outcome
  | _ => .error .notConnected

end ConnectStage

namespace Session

variable {S D : Type} [KeyValueStore S] [ServiceLookup D]

def resolveStage (s : Session S D) (name : String) : ConnectStage :=
  match s.directory with
  | none => .finished (.error (.discovery "no service discovery configured"))
  | some directory =>
    match ServiceLookup.resolve directory name with
    | .ok service => .aiming service name
    | .error (.discovery _) => .finished (.error (.unknownService name))
    | .error e => .finished (.error (.ofService e))

/-- Remembers a service, if there is a store. -/
def remember (s : Session S D) (service : Service) (name : String) : ConnectStage × Session S D :=
  match s.store with
  | none => (.starting service.address, s)
  | some store =>
    match KeyValueStore.write store lastServiceKey name with
    | .error e => (.finished (.error (.storage e)), s)
    | .ok store => (.starting service.address, { s with store := some store })

def conclude (s : Session S D) (address : String) (attempt : Nat) (answer : Except ReachError Unit) :
    ConnectStage × Session S D :=
  match answer with
  | .error e =>
    (.finished (.error (.io e.message)), { s with link := s.link.fail attempt address e.message })
  | .ok () =>
    match s.link.succeed attempt with
    | (some handed, link) => (.finished (.ok handed), { s with link })
    | (none, _) => (.finished (.error .notConnected), s)

def advance (network : Network) (s : Session S D) : ConnectStage → ConnectStage × Session S D
  | .resolving name => (s.resolveStage name, s)
  | .aiming service name =>
    (.remembering service name, { s with link := { s.link with target := some (.service name) } })
  | .remembering service name => s.remember service name
  | .starting address =>
    let link := s.link.start
    (.waiting address link.generation, { s with link })
  | .waiting address attempt => s.conclude address attempt (network address)
  | .finished outcome => (.finished outcome, s)

def advanceBy (network : Network) : Nat → Session S D → ConnectStage → ConnectStage × Session S D
  | 0, s, stage => (stage, s)
  | n + 1, s, stage =>
    let (stage, s) := s.advance network stage
    advanceBy network n s stage

/-- Takes a call to its end while nothing else acts on the session. -/
def complete (network : Network) (s : Session S D) (stage : ConnectStage) :
    Except SessionError (List Payload) × Session S D :=
  let (stage, s) := advanceBy network stage.remaining s stage
  (stage.outcome, s)

/-- Connects to an address; gives the messages handed to the connection. -/
def connect (network : Network) (s : Session S D) (address : String) :
    Except SessionError (List Payload) × Session S D :=
  complete network { s with link := { s.link with target := some (.address address) } }
    (.starting address)

def connectService (network : Network) (s : Session S D) (name : String) :
    Except SessionError (List Payload) × Session S D :=
  s.complete network (.resolving name)

/-- Connects to the target once more. -/
def reconnect (network : Network) (s : Session S D) :
    Except SessionError (List Payload) × Session S D :=
  match s.link.target with
  | none => (.error .noTarget, s)
  | some (.address address) => s.complete network (.starting address)
  | some (.service name) => s.connectService network name

def connectLast (network : Network) (s : Session S D) :
    Except SessionError (List Payload) × Session S D :=
  match s.store with
  | none => (.error .noTarget, s)
  | some store =>
    match KeyValueStore.read store lastServiceKey with
    | .error e => (.error (.storage e), s)
    | .ok none => (.error .noTarget, s)
    | .ok (some name) => s.connectService network name

end Session

end Switchboard
