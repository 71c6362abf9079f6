import Switchboard.Json.Cursor
import Switchboard.Decimal.Integer

/-!
Reading numbers. The significand keeps the leading digits that fit 64 bits, the digits after them only
move the exponent, and a double is the significand times or divided by one power of ten.
-/

namespace Switchboard.Json

def greatestSignificand : Nat :=
  Nat.pow 2 64 - 1

def greatestExponent : Nat :=
  Nat.pow 2 31 - 1

/-- Appends digits to a number while it stays within a bound; gives the digits that no longer fit. -/
def extend (bound : Nat) : Nat → List Char → Nat × List Char
  | n, [] => (n, [])
  | n, c :: rest =>
    let longer := 10 * n + Decimal.digitValue c
    if bound < longer then (n, c :: rest) else extend bound longer rest

/-- Divides by `10 ^ 308` until the exponent is not below `-308`. -/
def scaleDown : Nat → Binary64 → Int → Binary64 × Int
  | 0, x, exponent => (x, exponent)
  | n + 1, x, exponent =>
    if exponent < -308 && !x.isZero then
      scaleDown n ((x.div? (.powerOfTen 308)).getD x) (exponent + 308)
    else (x, exponent)

/-- The double of a significand and an exponent, both rounded on their own; nothing when too large. -/
def scaled? (significand : Nat) (exponent : Int) : Option Binary64 :=
  let (x, exponent) := scaleDown 4 (.ofNat significand) exponent
  if x.isZero then some x
  else if 308 < exponent then none
  else if 0 ≤ exponent then x.mul? (.powerOfTen exponent.toNat)
  else x.div? (.powerOfTen (-exponent).toNat)

namespace Cursor

/-- Reads the digits before the point, the first of which is no zero unless it is the only one. -/
def wholeDigits (at' : Cursor) : Reading (List Char) :=
  match at'.rest with
  | [] => at'.fault .missingValue
  | c :: _ =>
    if !c.isDigit then at'.faultAfterByte .invalidNumber
    else
      let (digits, next) := at'.digits
      if c == '0' && digits.length != 1 then at'.advance.faultAhead .invalidNumber
      else .ok (digits, next)

/-- Reads the digits after a point. -/
def fractionDigits (at' : Cursor) : Reading (List Char) :=
  let (digits, next) := at'.digits
  if !digits.isEmpty then .ok (digits, next)
  else if at'.rest.isEmpty then at'.fault .missingValue
  else at'.faultAhead .invalidNumber

/-- Reads the sign of an exponent; holds of a minus. -/
def exponentSign (at' : Cursor) : Bool × Cursor :=
  match at'.rest with
  | '+' :: _ => (false, at'.advance)
  | '-' :: _ => (true, at'.advance)
  | _ => (false, at')

def finish (negative : Bool) (significand : Nat) (exponent : Int) (at' : Cursor) : Reading Number :=
  match scaled? significand exponent with
  | some x => .ok (.double (if negative then x.neg else x), at')
  | none => at'.fault .numberOutOfRange

/-- Reads an exponent after its letter. -/
def exponent (negative : Bool) (significand : Nat) (exponent : Int) (at' : Cursor) : Reading Number :=
  let (down, first) := at'.exponentSign
  match first.rest with
  | [] => first.fault .missingValue
  | c :: _ =>
    if !c.isDigit then first.faultAfterByte .invalidNumber
    else
      let (digits, next) := first.digits
      match extend greatestExponent 0 digits with
      | (n, []) => finish negative significand (if down then exponent - n else exponent + n) next
      | (_, _ :: unread) =>
        if significand != 0 && !down then
          .error ⟨.numberOutOfRange, next.offset - unread.length⟩
        else .ok (.double (.zero negative), next)

/-- Reads what may follow the digits before the exponent. -/
def afterDigits (negative : Bool) (significand : Nat) (power : Int) (at' : Cursor) : Reading Number :=
  match at'.rest with
  | 'e' :: _ => at'.advance.exponent negative significand power
  | 'E' :: _ => at'.advance.exponent negative significand power
  | _ => finish negative significand power at'

/-- Reads a number after its sign. -/
def number (negative : Bool) (at' : Cursor) : Reading Number :=
  match at'.wholeDigits with
  | .error fault => .error fault
  | .ok (whole, next) =>
    let (significand, dropped) := extend greatestSignificand 0 whole
    let power : Int := dropped.length
    match next.rest with
    | '.' :: _ =>
      match next.advance.fractionDigits with
      | .error fault => .error fault
      | .ok (fraction, after) =>
        let (longer, unused) := extend greatestSignificand significand fraction
        after.afterDigits negative longer (power - (fraction.length - unused.length : Nat))
    | 'e' :: _ => next.afterDigits negative significand power
    | 'E' :: _ => next.afterDigits negative significand power
    | _ =>
      if !dropped.isEmpty then finish negative significand power next
      else if !negative then .ok (.integer significand, next)
      else if significand == 0 || Nat.pow 2 63 < significand then
        .ok (.double (Binary64.ofNat significand).neg, next)
      else .ok (.integer (-significand), next)

/-- Reads a number from its sign or first digit on. -/
def signedNumber (at' : Cursor) : Reading Number :=
  match at'.rest with
  | '-' :: _ => at'.advance.number true
  | _ => at'.number false

/-- Passes over an exponent after its letter. -/
def skipExponent (at' : Cursor) : Except Fault Cursor :=
  let (_, first) := at'.exponentSign
  match first.rest with
  | [] => first.fault .invalidNumber
  | c :: _ => if c.isDigit then .ok first.digits.2 else first.faultAfterByte .invalidNumber

/-- Passes over an exponent if there is one. -/
def skipAfterDigits (at' : Cursor) : Except Fault Cursor :=
  match at'.rest with
  | 'e' :: _ => at'.advance.skipExponent
  | 'E' :: _ => at'.advance.skipExponent
  | _ => .ok at'

/-- Passes over a number after its sign. -/
def skipNumber (at' : Cursor) : Except Fault Cursor :=
  match at'.rest with
  | [] => at'.fault .invalidNumber
  | c :: _ =>
    if !c.isDigit then at'.faultAfterByte .invalidNumber
    else
      let (digits, next) := at'.digits
      if c == '0' && digits.length != 1 then at'.advance.faultAhead .invalidNumber
      else
        match next.rest with
        | '.' :: _ =>
          let (fraction, after) := next.advance.digits
          if fraction.isEmpty then after.faultAhead .invalidNumber else after.skipAfterDigits
        | _ => next.skipAfterDigits

end Cursor

end Switchboard.Json
