/-!
Integers of a fixed width, and decimal numerals for them: a numeral has an optional sign and one or
more ASCII digits, and it is read only when the number fits the width.
-/

namespace Switchboard

inductive IntWidth
  | unsigned (bits : Nat)
  | signed (bits : Nat)
  deriving DecidableEq, Repr

namespace IntWidth

def name : IntWidth → String
  | unsigned bits => "u" ++ toString bits
  | signed bits => "i" ++ toString bits

def holds (width : IntWidth) (n : Int) : Bool :=
  match width with
  | unsigned bits => 0 ≤ n && n < Nat.pow 2 bits
  | signed bits => -Nat.pow 2 (bits - 1) ≤ n && n < Nat.pow 2 (bits - 1)

/-- Tells whether numerals of the width may carry a minus sign. -/
def allowsMinus : IntWidth → Bool
  | unsigned _ => false
  | signed _ => true

end IntWidth

namespace Decimal

def digitValue (c : Char) : Nat :=
  c.toNat - '0'.toNat

def ofDigits (digits : List Char) : Nat :=
  digits.foldl (fun n c => 10 * n + digitValue c) 0

def natural? (digits : List Char) : Option Nat :=
  if digits.isEmpty || !digits.all Char.isDigit then none else some (ofDigits digits)

def integer? (width : IntWidth) (numeral : List Char) : Option Int :=
  let read :=
    match numeral with
    | '+' :: digits => (natural? digits).map Int.ofNat
    | '-' :: digits => if width.allowsMinus then (natural? digits).map fun n => -Int.ofNat n else none
    | digits => (natural? digits).map Int.ofNat
  read.filter width.holds

/-- Reads a numeral without minus sign whose number stays below `2 ^ bits`. -/
def unsigned? (bits : Nat) (numeral : String) : Option Nat :=
  (integer? (.unsigned bits) numeral.toList).map Int.toNat

/-- Writes a number with at least `width` characters, filling up with blanks on the left. -/
def padLeft (width n : Nat) : String :=
  let digits := toString n
  String.ofList (List.replicate (width - digits.length) ' ') ++ digits

end Decimal

end Switchboard
