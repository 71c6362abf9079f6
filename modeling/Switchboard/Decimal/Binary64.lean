/-!
Double-precision numbers in exact arithmetic. A number is a mantissa below `2 ^ 53` times a power of
two not below `2 ^ -1074`; results are rounded to the nearest such number, halves to the even mantissa.
-/

namespace Switchboard

/-- A finite double: `mantissa * 2 ^ exponent`, with a sign that zero keeps too. -/
structure Binary64 where
  negative : Bool
  mantissa : Nat
  exponent : Int
  deriving DecidableEq, Repr, Inhabited

namespace Binary64

def leastExponent : Int := -1074

/-- The largest exponent that a mantissa of full width may have. -/
def greatestExponent : Int := 971

/-- Zero, with the given sign. -/
def zero (negative : Bool) : Binary64 :=
  ⟨negative, 0, leastExponent⟩

/-- Writes `mantissa * 2 ^ exponent` as a fraction. -/
def fraction (mantissa : Nat) (exponent : Int) : Nat × Nat :=
  if 0 ≤ exponent then (mantissa * Nat.pow 2 exponent.toNat, 1) else (mantissa, Nat.pow 2 (-exponent).toNat)

/-- The quotient and remainder of `num / den` measured in units of `2 ^ exponent`. -/
def inUnits (num den : Nat) (exponent : Int) : Nat × Nat × Nat :=
  let (scale, unit) := fraction 1 exponent
  let num := num * unit
  let den := den * scale
  (num / den, num % den, den)

/-- The exponent at which a positive fraction has 53 significant bits, or the least one. -/
def exponentFor (num den : Nat) : Int :=
  let guess : Int := (num.log2 : Int) - den.log2 - 52
  let guess := if (inUnits num den guess).1 < Nat.pow 2 52 then guess - 1 else guess
  max guess leastExponent

/-- The double nearest to `num / den`; nothing beyond the largest double. -/
def ofFraction? (negative : Bool) (num den : Nat) : Option Binary64 :=
  if num == 0 then some (zero negative)
  else
    let exponent := exponentFor num den
    let (quotient, remainder, unit) := inUnits num den exponent
    let up := unit < 2 * remainder || (2 * remainder == unit && quotient % 2 == 1)
    let mantissa := if up then quotient + 1 else quotient
    let (mantissa, exponent) :=
      if mantissa == Nat.pow 2 53 then (Nat.pow 2 52, exponent + 1) else (mantissa, exponent)
    if exponent ≤ greatestExponent then some ⟨negative, mantissa, exponent⟩ else none

/-- The double nearest to a natural number below `2 ^ 1024`. -/
def ofNat (n : Nat) : Binary64 :=
  (ofFraction? false n 1).getD (zero false)

def isZero (x : Binary64) : Bool :=
  x.mantissa == 0

def neg (x : Binary64) : Binary64 :=
  { x with negative := !x.negative }

def mul? (x y : Binary64) : Option Binary64 :=
  let (num, den) := fraction (x.mantissa * y.mantissa) (x.exponent + y.exponent)
  ofFraction? (x.negative != y.negative) num den

def div? (x y : Binary64) : Option Binary64 :=
  let (num, den) := fraction x.mantissa (x.exponent - y.exponent)
  ofFraction? (x.negative != y.negative) num (den * y.mantissa)

/-- The signed mantissa that the number has in units of `2 ^ exponent`. -/
def scaledTo (x : Binary64) (exponent : Int) : Int :=
  let magnitude : Int := x.mantissa * Nat.pow 2 (x.exponent - exponent).toNat
  if x.negative then -magnitude else magnitude

def add? (x y : Binary64) : Option Binary64 :=
  let exponent := min x.exponent y.exponent
  let sum := x.scaledTo exponent + y.scaledTo exponent
  let (num, den) := fraction sum.natAbs exponent
  if sum == 0 then some (zero (x.negative && y.negative))
  else ofFraction? (sum < 0) num den

/-- Tells whether the first number is at most the second. -/
def le (x y : Binary64) : Bool :=
  let exponent := min x.exponent y.exponent
  x.scaledTo exponent ≤ y.scaledTo exponent

/-- The double nearest to a power of ten up to `10 ^ 308`. -/
def powerOfTen (n : Nat) : Binary64 :=
  ofNat (Nat.pow 10 n)

/-- The double nearest to `significand * 10 ^ exponent`. -/
def ofDecimal? (negative : Bool) (significand : Nat) (exponent : Int) : Option Binary64 :=
  if 0 ≤ exponent then ofFraction? negative (significand * Nat.pow 10 exponent.toNat) 1
  else ofFraction? negative significand (Nat.pow 10 (-exponent).toNat)

end Binary64

end Switchboard
