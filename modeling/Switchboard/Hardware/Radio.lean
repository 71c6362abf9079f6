import Switchboard.Failure

/-!
Radios that transmit the codes of fixed-code switches.
-/

namespace Switchboard

inductive Transmission
  | sent
  | failed (failure : Failure)
  /-- The driver crashed. -/
  | crashed
  deriving DecidableEq, Repr

class Radio (R : Type) where
  transmit : R → UInt32 → Transmission × R

structure SimulatedRadio where
  sent : List UInt32 := []
  deriving DecidableEq, Repr, Inhabited

def SimulatedRadio.transmit (radio : SimulatedRadio) (code : UInt32) : Transmission × SimulatedRadio :=
  (.sent, ⟨radio.sent ++ [code]⟩)

instance : Radio SimulatedRadio := ⟨SimulatedRadio.transmit⟩

end Switchboard
