import Switchboard.Router.Basic
import Switchboard.Payload.Frame

/-!
A connection: bytes are cut into lines, and each line is a request to the router. A line that was too
long is answered as a ping after the lines received with it. After a goodbye nothing is handled.
-/

namespace Switchboard

structure Connection (W I : Type) where
  router : Router W I
  framer : Framer
  /-- Holds once a goodbye was given. -/
  finished : Bool := false
  /-- The lines dropped for their length and not yet counted. -/
  dropped : Nat := 0
  /-- The actions handled and not yet counted, the oldest first. -/
  handled : List String := []

namespace Connection

variable {W I : Type} [Protocol W I]

def handle (c : Connection W I) (p : Payload) (w : W) : Payload × Connection W I × W :=
  let (reply, router, w) := c.router.process p w
  (reply, { c with router, handled := c.handled ++ [p.effectiveAction] }, w)

/-- Handles requests up to the first goodbye. -/
def handleAll (c : Connection W I) : List Payload → W → List Payload × Connection W I × W
  | [], w => ([], c, w)
  | p :: rest, w =>
    let (reply, c, w) := c.handle p w
    if reply.isTerminal then ([reply], { c with finished := true }, w)
    else
      let (replies, c, w) := handleAll c rest w
      (reply :: replies, c, w)

/-- Takes bytes from the controller and gives a reply for each line that ended. -/
def receive (c : Connection W I) (bytes : List UInt8) (w : W) : List Payload × Connection W I × W :=
  if c.finished then ([], c, w)
  else
    let (framer, tooLong) := c.framer.feed bytes
    let (requests, framer) := framer.drain
    let c := { c with framer, dropped := c.dropped + (if tooLong.isSome then 1 else 0) }
    let (replies, c, w) := c.handleAll requests w
    if tooLong.isSome && !c.finished then
      let (reply, c, w) := c.handle .ping w
      (replies ++ [reply], c, w)
    else (replies, c, w)

/-- Fits a message that a protocol sent on its own to the menu of the moment. -/
def annotate (c : Connection W I) (p : Payload) : Payload :=
  c.router.annotate p

def activeKey (c : Connection W I) : Option String :=
  c.router.activeKey

/-- Gives the actions handled since they were last taken. -/
def takeHandled (c : Connection W I) : List String × Connection W I :=
  (c.handled, { c with handled := [] })

/-- Gives the number of lines dropped since it was last taken. -/
def takeDropped (c : Connection W I) : Nat × Connection W I :=
  (c.dropped, { c with dropped := 0 })

/-- Closes every protocol of the connection. -/
def close (c : Connection W I) (w : W) : Connection W I × W :=
  let (router, w) := c.router.close w
  ({ c with router }, w)

end Connection

end Switchboard
