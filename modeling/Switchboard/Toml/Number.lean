import Switchboard.Toml.Lexical
import Switchboard.Json.Value
import Switchboard.Decimal.Integer

/-!
Numbers and dates of TOML. Digits may be parted by single underscores; integers have 64 bits; a date or
a time has to exist.
-/

namespace Switchboard.Toml

def digitGroups (isDigit : Char → Bool) : Nat → Piece (List Char)
  | 0, _ => none
  | fuel + 1, chars =>
    let run := chars.takeWhile isDigit
    if run.isEmpty then none
    else
      match chars.drop run.length with
      | '_' :: rest => do
        let (more, rest) ← digitGroups isDigit fuel rest
        return (run ++ more, rest)
      | rest => some (run, rest)

def decimalDigits : Piece (List Char) := fun chars =>
  digitGroups Char.isDigit (chars.length + 1) chars

/-- Reads a sign; holds of a minus. -/
def sign : List Char → Bool × List Char
  | '-' :: rest => (true, rest)
  | '+' :: rest => (false, rest)
  | chars => (false, chars)

/-- Reads a whole number, which has no leading zero. -/
def whole : Piece (Bool × List Char) := fun chars =>
  let (negative, chars) := sign chars
  match chars with
  | '0' :: rest => some ((negative, ['0']), rest)
  | _ => do
    let (digits, rest) ← decimalDigits chars
    return ((negative, digits), rest)

/-- Reads the digits after a point, if there is one. -/
def fraction : Piece (Option (List Char))
  | '.' :: rest => do
    let (digits, rest) ← decimalDigits rest
    return (some digits, rest)
  | chars => some (none, chars)

/-- Reads an exponent, if there is one. -/
def exponent : Piece (Option Int) := fun chars =>
  let read (rest : List Char) : Option (Option Int × List Char) :=
    let (negative, rest) := sign rest
    match decimalDigits rest with
    | none => none
    | some (digits, rest) =>
      let n : Int := Decimal.ofDigits digits
      some (some (if negative then -n else n), rest)
  match chars with
  | 'e' :: rest => read rest
  | 'E' :: rest => read rest
  | _ => some (none, chars)

/-- Tells whether `significand * 10 ^ exponent` is beyond the largest double. -/
def overflows (significand : Nat) (exponent : Int) : Bool :=
  let digits : Int := (toString significand).length
  if significand == 0 || digits + exponent < -400 then false
  else if 400 < digits + exponent then true
  else (Binary64.ofDecimal? false significand exponent).isNone

/-- A number with a point or an exponent; no setting takes one, so that only its kind is kept. -/
def anyDouble : Json.Value :=
  .number (.double (.zero false))

def decimalNumber : Piece Json.Value := fun chars => do
  let ((negative, digits), rest) ← whole chars
  let (places, rest) ← fraction rest
  let (power, rest) ← exponent rest
  match places, power with
  | none, none =>
    let n : Int := Decimal.ofDigits digits
    let n := if negative then -n else n
    if IntWidth.holds (.signed 64) n then return (.number (.integer n), rest) else none
  | _, _ =>
    let places := places.getD []
    let significand := Decimal.ofDigits (digits ++ places)
    if !negative && overflows significand (power.getD 0 - places.length) then none
    else return (anyDouble, rest)

def basedNumber (base : Nat) : Piece Json.Value := fun chars => do
  let isDigit (c : Char) : Bool := ((hexDigitValue? c).map fun d => decide (d < base)).getD false
  let (digits, rest) ← digitGroups isDigit (chars.length + 1) chars
  let n := numberToBase base digits
  if n < Nat.pow 2 63 then return (.number (.integer n), rest) else none

/-- Reads a name of a number that is not finite. -/
def specialNumber : Piece Json.Value := fun chars =>
  match (sign chars).2 with
  | 'i' :: 'n' :: 'f' :: rest => some (anyDouble, rest)
  | 'n' :: 'a' :: 'n' :: rest => some (anyDouble, rest)
  | _ => none

def number : Piece Json.Value := fun chars =>
  match chars with
  | '0' :: 'x' :: rest => basedNumber 16 rest
  | '0' :: 'o' :: rest => basedNumber 8 rest
  | '0' :: 'b' :: rest => basedNumber 2 rest
  | _ => decimalNumber chars <|> specialNumber chars

/-- Reads a number of exactly so many digits between two bounds. -/
def fixedDigits (count low high : Nat) : Piece Nat := fun chars =>
  let digits := chars.take count
  let n := Decimal.ofDigits digits
  if digits.length == count && digits.all Char.isDigit && low ≤ n && n ≤ high then
    some (n, chars.drop count)
  else none

def isLeapYear (year : Nat) : Bool :=
  year % 4 == 0 && (year % 100 != 0 || year % 400 == 0)

def daysOfMonth (year month : Nat) : Nat :=
  if month == 2 then (if isLeapYear year then 29 else 28)
  else if [4, 6, 9, 11].contains month then 30
  else 31

def date : Piece Unit := fun chars => do
  let (year, rest) ← fixedDigits 4 0 9999 chars
  let (_, rest) ← Piece.char '-' rest
  let (month, rest) ← fixedDigits 2 1 12 rest
  let (_, rest) ← Piece.char '-' rest
  let (_, rest) ← fixedDigits 2 1 (daysOfMonth year month) rest
  return ((), rest)

/-- Reads the places of a second, if there are any. -/
def secondPlaces (chars : List Char) : List Char :=
  match chars with
  | '.' :: d :: rest => if d.isDigit then rest.dropWhile Char.isDigit else chars
  | _ => chars

def time : Piece Unit := fun chars => do
  let (_, rest) ← fixedDigits 2 0 23 chars
  let (_, rest) ← Piece.char ':' rest
  let (_, rest) ← fixedDigits 2 0 59 rest
  let (_, rest) ← Piece.char ':' rest
  let (_, rest) ← fixedDigits 2 0 60 rest
  return ((), secondPlaces rest)

/-- Reads an offset from universal time, if there is one. -/
def offset : Piece Unit := fun chars =>
  let read (rest : List Char) : Option (Unit × List Char) := do
    let (_, rest) ← fixedDigits 2 0 23 rest
    let (_, rest) ← Piece.char ':' rest
    let (_, rest) ← fixedDigits 2 0 59 rest
    return ((), rest)
  match chars with
  | 'Z' :: rest => some ((), rest)
  | 'z' :: rest => some ((), rest)
  | '+' :: rest => read rest
  | '-' :: rest => read rest
  | _ => some ((), chars)

/-- Reads the time after a date, if there is one. -/
def timeOfDate : Piece Unit := fun chars =>
  match chars with
  | c :: rest =>
    if c == 'T' || c == 't' || c == ' ' then
      match time rest with
      | some (_, rest) => offset rest
      | none => some ((), chars)
    else some ((), chars)
  | [] => some ((), chars)

/-- A date or time is an object with one member that no setting has. -/
def anyDateTime : Json.Value :=
  .object [("date-time", .null)]

/-- Reads a date, a time or both. -/
def dateTime : Piece Json.Value := fun chars =>
  match date chars with
  | some (_, rest) => do
    let (_, rest) ← timeOfDate rest
    return (anyDateTime, rest)
  | none => (time chars).map fun (_, rest) => (anyDateTime, rest)

end Switchboard.Toml
