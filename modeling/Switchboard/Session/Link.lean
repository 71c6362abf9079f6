/-!
The link of a session to its server. Each attempt to connect, each connection and each end of one takes a
new generation. What an attempt or a connection reports carries its generation and counts only while that
is the current one. A link never looks into the messages of type `M` that it passes on. Generations are
natural numbers: a counter of 64 bits comes back to one that it had only after `2 ^ 64` attempts and ends,
more than a session can see.
-/

namespace Switchboard

inductive LinkState
  | disconnected
  | connecting
  | connected
  deriving DecidableEq, Repr, Inhabited

inductive Target
  | address (text : String)
  /-- A service, which is looked up on every attempt. -/
  | service (name : String)
  deriving DecidableEq, Repr

inductive Delivery
  | sent
  | queued
  deriving DecidableEq, Repr

/-- The end of a connection that messages are handed to. -/
structure Writer where
  generation : Nat
  /-- Holds once the connection takes no more messages, which may be before its end is reported. -/
  stopped : Bool := false
  deriving DecidableEq, Repr

/-- A link, and the messages that wait for it. -/
structure Link (M : Type) where
  state : LinkState := .disconnected
  generation : Nat := 0
  /-- The messages that wait for a connection, the oldest first. -/
  queue : List M := []
  writer : Option Writer := none
  target : Option Target := none
  /-- Why the last connection ended or was not made. -/
  lastError : Option String := none
  deriving DecidableEq, Repr, Inhabited

def LinkState.text : LinkState → String
  | disconnected => "disconnected"
  | connecting => "connecting"
  | connected => "connected"

def Delivery.text : Delivery → String
  | sent => "sent"
  | queued => "queued"

inductive LinkEvent (M : Type)
  | send (m : M)
  | start
  | succeed (attempt : Nat)
  | fail (attempt : Nat) (address reason : String)
  /-- The connection of a generation takes no more messages. -/
  | stop (generation : Nat)
  | lose (generation : Nat) (reason : String)
  | disconnect
  | forget
  deriving DecidableEq, Repr

namespace Link

variable {M : Type}

def cut (l : Link M) : Link M :=
  { l with writer := none, generation := l.generation + 1 }

/-- Starts an attempt, which is known by the generation it makes. -/
def start (l : Link M) : Link M :=
  { l.cut with state := .connecting }

/-- Tells whether an attempt still counts. -/
def awaits (l : Link M) (attempt : Nat) : Bool :=
  l.generation == attempt && l.state == .connecting

/-- Makes the connection of an attempt and gives the messages that it carries first; nothing if the attempt
no longer counts. -/
def succeed (l : Link M) (attempt : Nat) : Option (List M) × Link M :=
  if l.awaits attempt then
    (some l.queue,
      { l with
        state := .connected
        generation := l.generation + 1
        queue := []
        writer := some ⟨l.generation + 1, false⟩
        lastError := none })
  else (none, l)

def fail (l : Link M) (attempt : Nat) (address reason : String) : Link M :=
  if l.awaits attempt then
    { l with
      state := .disconnected
      lastError := some ("could not connect to " ++ address ++ ": " ++ reason) }
  else l

/-- Lets the connection that is written to take no more messages; another one is not concerned. -/
def stop (l : Link M) (generation : Nat) : Link M :=
  { l with
    writer := l.writer.map fun w => if w.generation == generation then { w with stopped := true } else w }

/-- Ends a connection that was lost. -/
def lose (l : Link M) (generation : Nat) (reason : String) : Link M :=
  if l.generation == generation then
    { l.cut with state := .disconnected, lastError := some reason }
  else l

/-- Ends the connection; what waits goes on waiting. -/
def disconnect (l : Link M) : Link M :=
  { l.cut with state := .disconnected, lastError := none }

def forget (l : Link M) : Link M :=
  { l.disconnect with queue := [], target := none }

/-- Tells whether a message can be handed to the connection. -/
def takes (l : Link M) : Bool :=
  l.state == .connected && l.writer.any fun w => !w.stopped

/-- Sends a message over the connection, or lets it wait for one. -/
def send (l : Link M) (m : M) : Delivery × Link M :=
  if l.takes then (.sent, l) else (.queued, { l with queue := l.queue ++ [m] })

/-- Lets an event happen; gives the messages handed to the connection. -/
def step (l : Link M) : LinkEvent M → List M × Link M
  | .send m =>
    match l.send m with
    | (.sent, l) => ([m], l)
    | (.queued, l) => ([], l)
  | .start => ([], l.start)
  | .succeed attempt =>
    let (handed, l) := l.succeed attempt
    (handed.getD [], l)
  | .fail attempt address reason => ([], l.fail attempt address reason)
  | .stop generation => ([], l.stop generation)
  | .lose generation reason => ([], l.lose generation reason)
  | .disconnect => ([], l.disconnect)
  | .forget => ([], l.forget)

end Link

end Switchboard
