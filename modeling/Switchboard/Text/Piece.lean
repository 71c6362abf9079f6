/-!
Readers of a piece of a text: what was read and the rest, or nothing.
-/

namespace Switchboard

abbrev Piece (α : Type) := List Char → Option (α × List Char)

def hexDigitValue? (c : Char) : Option Nat :=
  if c.isDigit then some (c.toNat - 48)
  else if 'a' ≤ c ∧ c ≤ 'f' then some (c.toNat - 87)
  else if 'A' ≤ c ∧ c ≤ 'F' then some (c.toNat - 55)
  else none

def numberToBase (base : Nat) (digits : List Char) : Nat :=
  digits.foldl (fun n c => base * n + (hexDigitValue? c).getD 0) 0

namespace Piece

def char (c : Char) : Piece Unit
  | d :: rest => if c == d then some ((), rest) else none
  | [] => none

end Piece

end Switchboard
