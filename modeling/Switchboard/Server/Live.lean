import Switchboard.Router.Connection

/-!
A live connection. Replies are written at once, and a goodbye ends it. What protocols send on their own is
collected and held while a timer runs; when it expires everything held or still to be collected is written
together, fitted to the menu of that moment.
-/

namespace Switchboard

structure Live (W I : Type) where
  connection : Connection W I
  /-- The key of the protocol that the registry of connections shows. -/
  shown : Option String := none
  /-- What protocols sent on their own and was not collected, the oldest first. -/
  outbox : List Payload := []
  /-- What was collected and not written, the oldest first. -/
  held : List Payload := []
  /-- Holds while the timer runs. -/
  armed : Bool := false
  /-- Holds once nothing more is read or written. -/
  ended : Bool := false

/-- What came of bytes that a controller sent. -/
structure Handled where
  /-- What is written at once. -/
  replies : List Payload
  /-- The actions of the requests. -/
  actions : List String
  /-- The number of lines dropped for their length. -/
  dropped : Nat
  /-- The key of the protocol that the bytes led to from another one or from the chooser. -/
  chosen : Option String
  deriving DecidableEq, Repr

inductive LiveEvent
  /-- Bytes come from the controller. -/
  | read (bytes : List UInt8)
  /-- A protocol sends a message on its own. -/
  | emit (p : Payload)
  /-- The oldest message of the outbox is collected. -/
  | collect
  /-- The timer expires. -/
  | expire
  /-- The controller or the server closes the connection. -/
  | close
  deriving DecidableEq, Repr

inductive Written
  | reply (p : Payload)
  /-- A message that a protocol sent on its own. -/
  | late (p : Payload)
  deriving DecidableEq, Repr

namespace Live

variable {W I : Type}

def start (registry : Registry W I) (name : String) (limit : Nat) : Live W I :=
  { connection := { router := { registry, connection := name }, framer := { limit } } }

def emit (l : Live W I) (p : Payload) : Live W I :=
  { l with outbox := l.outbox ++ [p] }

/-- Collects the oldest message of the outbox and sees that the timer runs. -/
def collect (l : Live W I) : Live W I :=
  match l.outbox with
  | [] => l
  | p :: outbox => { l with outbox, held := l.held ++ [p], armed := true }

variable [Protocol W I]

/-- Handles bytes from the controller. -/
def read (l : Live W I) (bytes : List UInt8) (w : W) : Handled × Live W I × W :=
  let (replies, c, w) := l.connection.receive bytes w
  let (actions, c) := c.takeHandled
  let (dropped, c) := c.takeDropped
  let key := c.activeKey
  let moved := key != l.connection.activeKey
  ({ replies, actions, dropped, chosen := if moved then key else none },
    { l with
      connection := c
      shown := if moved then key else l.shown
      ended := c.finished }, w)

def expire (l : Live W I) : List Payload × Live W I :=
  if l.armed then
    ((l.held ++ l.outbox).map l.connection.annotate,
      { l with outbox := [], held := [], armed := false })
  else ([], l)

/-- Lets an event happen; gives what is written. After a goodbye or a close nothing is. -/
def step (l : Live W I) (event : LiveEvent) (w : W) : List Written × Live W I × W :=
  if l.ended then ([], l, w)
  else
    match event with
    | .read bytes =>
      let (handled, l, w) := l.read bytes w
      (handled.replies.map .reply, l, w)
    | .emit p => ([], l.emit p, w)
    | .collect => ([], l.collect, w)
    | .expire =>
      let (late, l) := l.expire
      (late.map .late, l, w)
    | .close => ([], { l with ended := true }, w)

def close (l : Live W I) (w : W) : W :=
  (l.connection.close w).2

end Live

end Switchboard
