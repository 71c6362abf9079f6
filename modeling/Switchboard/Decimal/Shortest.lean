import Switchboard.Decimal.Binary64

/-!
The shortest decimal of a double: the fewest digits that read back as the same double, and of those
the ones nearest to it. The texts built from it differ in where they stop writing plain positions.
-/

namespace Switchboard

/-- The decimal `digits * 10 ^ exponent`. -/
structure DecimalDigits where
  digits : Nat
  exponent : Int
  deriving DecidableEq, Repr

namespace DecimalDigits

/-- Drops the zeros at the end of the digits, at most `n` of them. -/
def dropZeros : Nat → DecimalDigits → DecimalDigits
  | 0, d => d
  | n + 1, d => if d.digits % 10 == 0 then dropZeros n ⟨d.digits / 10, d.exponent + 1⟩ else d

def magnitude (d : DecimalDigits) : Int :=
  d.exponent + ((toString d.digits).length : Int) - 1

end DecimalDigits

namespace Binary64

/-- A positive fraction and the interval around it that reads back as the same double. -/
structure Neighbourhood where
  low : Nat
  value : Nat
  high : Nat
  /-- Tells whether the ends belong to the interval. -/
  closed : Bool
  /-- The exponent of the unit that the three numbers count. -/
  exponent : Int

/-- The neighbourhood of a positive double, counted in quarters of its last place. -/
def neighbourhood (x : Binary64) : Neighbourhood :=
  let value := 4 * x.mantissa
  let narrow := x.mantissa == Nat.pow 2 52 && leastExponent < x.exponent
  { low := if narrow then value - 1 else value - 2
    value
    high := value + 2
    closed := x.mantissa % 2 == 0
    exponent := x.exponent - 2 }

/-- `n * 10 ^ power` in units of `2 ^ exponent`, as a fraction. -/
def decimalInUnits (n : Nat) (power exponent : Int) : Nat × Nat :=
  let num := if 0 ≤ power then n * Nat.pow 10 power.toNat else n
  let den := if 0 ≤ power then 1 else Nat.pow 10 (-power).toNat
  if 0 ≤ exponent then (num, den * Nat.pow 2 exponent.toNat) else (num * Nat.pow 2 (-exponent).toNat, den)

namespace Neighbourhood

/-- Tells whether `n * 10 ^ power` reads back as the double in the middle. -/
def contains (a : Neighbourhood) (n : Nat) (power : Int) : Bool :=
  let (num, den) := decimalInUnits n power a.exponent
  if a.closed then a.low * den ≤ num && num ≤ a.high * den
  else a.low * den < num && num < a.high * den

/-- The distance of `n * 10 ^ power` from the middle; fractions of one power share a denominator. -/
def distance (a : Neighbourhood) (n : Nat) (power : Int) : Nat :=
  let (num, den) := decimalInUnits n power a.exponent
  (num - a.value * den) + (a.value * den - num)

/-- The power of ten of the leading digit of the middle. -/
def magnitude (a : Neighbourhood) : Int :=
  let atLeast (power : Int) : Bool :=
    let (num, den) := decimalInUnits 1 power a.exponent
    num ≤ a.value * den
  let bits : Int := a.value.log2 + a.exponent
  let guess := bits * 30103 / 100000
  if atLeast (guess + 1) then guess + 1 else if atLeast guess then guess else guess - 1

/-- The better of the two decimals next to the middle on the grid of `10 ^ power`, if one reads back. -/
def onGrid? (a : Neighbourhood) (power : Int) : Option Nat :=
  let (num, den) := decimalInUnits 1 power a.exponent
  let below := a.value * den / num
  let above := below + 1
  match a.contains below power, a.contains above power with
  | false, false => none
  | true, false => some below
  | false, true => some above
  | true, true =>
    let toBelow := a.distance below power
    let toAbove := a.distance above power
    if toBelow < toAbove || (toBelow == toAbove && below % 2 == 0) then some below else some above

def firstGrid (a : Neighbourhood) : Nat → Int → DecimalDigits
  | 0, power => ⟨(a.onGrid? power).getD 0, power⟩
  | n + 1, power =>
    match a.onGrid? power with
    | some digits => ⟨digits, power⟩
    | none => firstGrid a n (power - 1)

end Neighbourhood

/-- The fewest digits that read back as the magnitude of the double. -/
def shortest (x : Binary64) : DecimalDigits :=
  if x.isZero then ⟨0, 0⟩
  else
    let a := x.neighbourhood
    (a.firstGrid 17 a.magnitude).dropZeros 20

structure TextStyle where
  /-- The magnitudes that are written without an exponent; none means all. -/
  plain : Option (Int × Int)
  /-- Tells whether a whole number is followed by `.0`. -/
  keepPoint : Bool

/-- Writes a decimal without exponent. -/
def plainText (style : TextStyle) (d : DecimalDigits) : String :=
  let digits := toString d.digits
  let zeros (n : Int) : String := String.ofList (List.replicate n.toNat '0')
  if 0 ≤ d.exponent then digits ++ zeros d.exponent ++ (if style.keepPoint then ".0" else "")
  else
    let places := (-d.exponent).toNat
    if digits.length ≤ places then "0." ++ zeros (places - digits.length : Nat) ++ digits
    else
      let chars := digits.toList
      let whole := digits.length - places
      String.ofList (chars.take whole) ++ "." ++ String.ofList (chars.drop whole)

/-- Writes a decimal with one digit before the point and an exponent. -/
def exponentText (d : DecimalDigits) : String :=
  let magnitude := d.magnitude
  let digits :=
    match (toString d.digits).toList with
    | first :: second :: more => first :: '.' :: second :: more
    | few => few
  String.ofList digits ++ (if magnitude < 0 then "e-" else "e+") ++ toString magnitude.natAbs

def text (style : TextStyle) (x : Binary64) : String :=
  let d := x.shortest
  let plain :=
    match style.plain with
    | none => true
    | some (low, high) => low ≤ d.magnitude && d.magnitude ≤ high
  (if x.negative then "-" else "") ++ (if plain then plainText style d else exponentText d)

end Binary64

end Switchboard
