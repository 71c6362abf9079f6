import Switchboard.Session.Link
import Switchboard.Session.Error
import Switchboard.Session.Replies
import Switchboard.Service.Lookup
import Switchboard.Store.Keeping
import Switchboard.Payload.Frame
import Switchboard.Text.Quoted

/-!
The session of a controller. Messages go out over the link or wait for it; those that come in wait, in
order, until they are recorded. The session looks services up in its directory and remembers the last one
in its store.
-/

namespace Switchboard

/-- A session with a store and a directory, each of which may be missing. -/
structure Session (S D : Type) where
  link : Link Payload := {}
  /-- The messages received and not yet recorded, the oldest first. -/
  inbound : List Payload := []
  replies : Replies := {}
  store : Option S := none
  directory : Option D := none

namespace Session

variable {S D : Type}

/-- Sends a message now or lets it wait. -/
def send (s : Session S D) (p : Payload) : Delivery × Session S D :=
  let (delivery, link) := s.link.send p
  (delivery, { s with link })

/-- Sends an action without arguments. -/
def request (s : Session S D) (action : String) : Delivery × Session S D :=
  s.send (.request action)

/-- Answers the schema that waits under a key; there may be none. -/
def answer (s : Session S D) (key : String) (values : List (String × String)) :
    Option (Delivery × Payload) × Session S D :=
  match s.replies.takeSchema key with
  | (none, _) => (none, s)
  | (some schema, replies) =>
    let p := schema.resubmission values
    let (delivery, s) := { s with replies }.send p
    (some (delivery, p), s)

def receive (s : Session S D) (p : Payload) : Session S D :=
  { s with inbound := s.inbound ++ [p] }

/-- Takes bytes from a connection, whose framer keeps what has not ended. -/
def receiveBytes (s : Session S D) (framer : Framer) (bytes : List UInt8) : Framer × Session S D :=
  let (ps, framer) := (framer.feed bytes).1.drain
  (framer, ps.foldl receive s)

/-- Records the message that has waited longest. -/
def recordNext (s : Session S D) : Session S D :=
  match s.inbound with
  | [] => s
  | p :: inbound => { s with inbound, replies := s.replies.record p }

/-- Ends a connection that was lost. -/
def lose (s : Session S D) (generation : Nat) (reason : String) : Session S D :=
  { s with link := s.link.lose generation reason }

def disconnect (s : Session S D) : Session S D :=
  { s with link := s.link.disconnect }

/-- The session in words, for a log. -/
def describe (s : Session S D) : String :=
  let state :=
    match s.link.state with
    | .disconnected => "Disconnected"
    | .connecting => "Connecting"
    | .connected => "Connected"
  let target :=
    match s.link.target with
    | none => "None"
    | some (.address text) => "Some(Address(" ++ Text.quote text ++ "))"
    | some (.service name) => "Some(Service(" ++ Text.quote name ++ "))"
  "ClientSession \x7b state: " ++ state ++ ", target: " ++ target ++ ", queued: " ++
    toString s.link.queue.length ++ " \x7d"

variable [KeyValueStore S]

/-- The first part of forgetting: the connection, its target and what waits for it. -/
def forgetLink (s : Session S D) : Session S D :=
  { s with link := s.link.forget }

/-- The second part of forgetting: what was recorded. -/
def forgetReplies (s : Session S D) : Session S D :=
  { s with replies := s.replies.forget }

/-- The last part of forgetting: the service that was remembered. -/
def forgetStored (s : Session S D) : Except SessionError Unit × Session S D :=
  match s.store with
  | none => (.ok (), s)
  | some store =>
    match KeyValueStore.remove store lastServiceKey with
    | .error e => (.error (.storage e), s)
    | .ok store => (.ok (), { s with store := some store })

def forget (s : Session S D) : Except SessionError Unit × Session S D :=
  s.forgetLink.forgetReplies.forgetStored

end Session

end Switchboard
