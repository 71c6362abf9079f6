import Switchboard.Json.Strings
import Switchboard.Json.Numbers

/-!
Passing over a value that is not wanted. Only its form is checked: brackets may nest to any depth,
numbers may be of any size and surrogate escapes may stand alone.
-/

namespace Switchboard.Json

/-- A kind of bracket that is still open. -/
inductive Bracket
  | list
  | object
  deriving DecidableEq, Repr

namespace Cursor

def skipName (at' : Cursor) : Except Fault Cursor :=
  let next := at'.token
  match next.rest with
  | '"' :: _ =>
    match next.skipString with
    | .error fault => .error fault
    | .ok after => after.colon
  | [] => next.faultAhead .unclosedObject
  | _ => next.faultAhead .keyNotString

/-- Passes over a value that is no list and no object. -/
def skipScalar (at' : Cursor) : Except Fault Cursor :=
  match at'.rest with
  | [] => at'.faultAhead .missingValue
  | 'n' :: _ => letters ['u', 'l', 'l'] at'.advance
  | 't' :: _ => letters ['r', 'u', 'e'] at'.advance
  | 'f' :: _ => letters ['a', 'l', 's', 'e'] at'.advance
  | '-' :: _ => at'.advance.skipNumber
  | '"' :: _ => at'.skipString
  | c :: _ => if c.isDigit then at'.skipNumber else at'.faultAhead .expectedValue

/-- The bracket that opens here, if any. -/
def opening? (at' : Cursor) : Option Bracket :=
  match at'.rest with
  | '[' :: _ => some .list
  | '\x7b' :: _ => some .object
  | _ => none

def closes (at' : Cursor) : Bracket → Bool
  | .list => at'.rest.head? == some ']'
  | .object => at'.rest.head? == some '\x7d'

/-- The place of the next value inside the innermost open bracket, past a name in an object. -/
def nextInside (bracket : Bracket) (at' : Cursor) : Except Fault Cursor :=
  match bracket with
  | .list => .ok at'
  | .object => at'.skipName

/-- What comes next while passing over nested brackets. -/
inductive SkipStep
  | value
  | afterValue
  | afterOpening

/-- Passes over what is left inside the open brackets, the innermost of which comes first. -/
def skipInside : Nat → SkipStep → List Bracket → Cursor → Except Fault Cursor
  | 0, _, _, at' => at'.fault .missingValue
  | fuel + 1, .value, brackets, at' =>
    let next := at'.token
    match next.opening? with
    | some bracket => skipInside fuel .afterOpening (bracket :: brackets) next.advance
    | none =>
      match next.skipScalar with
      | .error fault => .error fault
      | .ok after => skipInside fuel .afterValue brackets after
  | _ + 1, .afterValue, [], at' => .ok at'
  | _ + 1, .afterOpening, [], at' => .ok at'
  | fuel + 1, .afterValue, bracket :: brackets, at' =>
    let next := at'.token
    if next.closes bracket then skipInside fuel .afterValue brackets next.advance
    else
      match next.rest with
      | ',' :: _ =>
        match nextInside bracket next.advance with
        | .error fault => .error fault
        | .ok after => skipInside fuel .value (bracket :: brackets) after
      | [] =>
        next.faultAhead (match bracket with | .list => .unclosedList | .object => .unclosedObject)
      | _ =>
        next.faultAhead
          (match bracket with | .list => .expectedListEnd | .object => .expectedObjectEnd)
  | fuel + 1, .afterOpening, bracket :: brackets, at' =>
    let next := at'.token
    if next.closes bracket then skipInside fuel .afterValue brackets next.advance
    else if next.rest.isEmpty then
      next.faultAhead (match bracket with | .list => .unclosedList | .object => .unclosedObject)
    else
      match nextInside bracket next with
      | .error fault => .error fault
      | .ok after => skipInside fuel .value (bracket :: brackets) after

def skipValue (at' : Cursor) : Except Fault Cursor :=
  skipInside (2 * at'.rest.length + 2) .value [] at'

end Cursor

end Switchboard.Json
