import Switchboard.Failure
import Switchboard.Payload.Basic

/-!
Protocols and their registry. A protocol instance belongs to one connection and may act on a world `W`
that connections share. The registry names the ways to build instances, in menu order.
-/

namespace Switchboard

/-- How instances in `I` behave in a world `W`. -/
class Protocol (W : Type) (I : Type) where
  /-- The key that the replies of an instance carry. -/
  key : I → String
  /-- Handles one request. -/
  process : I → Payload → W → Payload × I × W
  /-- Gives back what the instance holds in the world. -/
  close : I → W → W

/-- A way to build the instance of a connection under a selector. -/
structure Registration (W I : Type) where
  selector : String
  build : String → W → Except Failure (I × W)

/-- The protocols that a connection can choose from, in menu order. -/
structure Registry (W I : Type) where
  entries : List (Registration W I) := []

namespace Registry

variable {W I : Type}

/-- Puts a registration in place of the one with its selector, or at the end. -/
def place (entry : Registration W I) : List (Registration W I) → List (Registration W I)
  | [] => [entry]
  | other :: rest =>
    if other.selector == entry.selector then entry :: rest else other :: place entry rest

/-- Registers a way to build instances; a repeated selector keeps its place in the menu. -/
def register (r : Registry W I) (selector : String)
    (build : String → W → Except Failure (I × W)) : Registry W I :=
  ⟨place ⟨selector, build⟩ r.entries⟩

def selectors (r : Registry W I) : List String :=
  r.entries.map Registration.selector

def contains (r : Registry W I) (selector : String) : Bool :=
  r.entries.any fun entry => entry.selector == selector

def size (r : Registry W I) : Nat :=
  r.entries.length

def build (r : Registry W I) (selector connection : String) (w : W) : Except Failure (I × W) :=
  match r.entries.find? fun entry => entry.selector == selector with
  | some entry => entry.build connection w
  | none => .error (.unknownSelector selector)

def menu (r : Registry W I) : List String :=
  Switchboard.menu r.selectors

end Registry

end Switchboard
