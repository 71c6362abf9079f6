import Switchboard.Argument.Schema
import Switchboard.Association

/-!
What a session keeps of the messages it received: the last ones under each key, the schema that waits for
arguments under each key, and what the subscribers have not taken. A message that asks for arguments with
a readable schema is kept as that schema only.
-/

namespace Switchboard

def historyCapacity : Nat := 256

/-- Someone who takes the messages of one key, or all of them. -/
structure Subscription where
  key : Option String
  /-- The messages not yet taken, the oldest first. -/
  waiting : List Payload := []
  ended : Bool := false
  deriving DecidableEq, Repr, Inhabited

namespace Subscription

def wants (s : Subscription) (p : Payload) : Bool :=
  !s.ended && (s.key.isNone || s.key == some p.key)

def offer (s : Subscription) (p : Payload) : Subscription :=
  if s.wants p then { s with waiting := s.waiting ++ [p] } else s

end Subscription

/-- The schema of a message that asks for arguments, if it can be read. -/
def Payload.askedSchema? (p : Payload) : Option ArgumentSchema :=
  if p.isCommandInfo then p.data.bind fun data => (ArgumentSchema.ofJson data).toOption else none

structure Replies where
  histories : List (String × List Payload) := []
  /-- The schema that waits for arguments under each key. -/
  asked : List (String × ArgumentSchema) := []
  subscriptions : List Subscription := []
  deriving DecidableEq, Repr, Inhabited

namespace Replies

/-- The messages kept under a key, the oldest first. -/
def history (r : Replies) (key : String) : List Payload :=
  (r.histories.lookup key).getD []

/-- The newest message kept under a key. -/
def latest? (r : Replies) (key : String) : Option Payload :=
  (r.history key).getLast?

/-- Keeps the newest messages, as many as a history holds. -/
def newest (ps : List Payload) : List Payload :=
  ps.drop (ps.length - historyCapacity)

def keep (r : Replies) (p : Payload) : Replies :=
  match p.askedSchema? with
  | some schema => { r with asked := Association.put p.key schema r.asked }
  | none =>
    { r with histories := Association.put p.key (newest (r.history p.key ++ [p])) r.histories }

def record (r : Replies) (p : Payload) : Replies :=
  { r.keep p with subscriptions := r.subscriptions.map (·.offer p) }

def clearHistory (r : Replies) (key : String) : Replies :=
  { r with histories := Association.erase key r.histories }

def schema? (r : Replies) (key : String) : Option ArgumentSchema :=
  r.asked.lookup key

def takeSchema (r : Replies) (key : String) : Option ArgumentSchema × Replies :=
  (r.schema? key, { r with asked := Association.erase key r.asked })

def subscribe (r : Replies) (key : Option String) : Nat × Replies :=
  (r.subscriptions.length, { r with subscriptions := r.subscriptions ++ [{ key }] })

/-- Takes the messages that wait for the subscriber of a number. -/
def take (r : Replies) (number : Nat) : List Payload × Replies :=
  match r.subscriptions[number]? with
  | none => ([], r)
  | some s =>
    (s.waiting, { r with subscriptions := r.subscriptions.set number { s with waiting := [] } })

def unsubscribe (r : Replies) (number : Nat) : Replies :=
  { r with subscriptions := r.subscriptions.modify number fun s => { s with ended := true, waiting := [] } }

/-- Drops every history and every schema; the subscribers stay. -/
def forget (r : Replies) : Replies :=
  { r with histories := [], asked := [] }

end Replies

end Switchboard
