import Switchboard.Json.Skip

/-!
Reading JSON values. Lists and objects are read by two loops that know nothing of their items, so that
decoders use the same loops; at most 127 brackets may be open at once.
-/

namespace Switchboard.Json

/-- The greatest number of brackets that may be open at once. -/
def greatestDepth : Nat := 127

namespace Cursor

/-- Reads the items up to the closing bracket, which is left; `before` holds those read, in reverse. -/
def itemsFrom {α : Type} (item : Cursor → Reading α) : Nat → List α → Cursor → Reading (List α)
  | 0, _, at' => at'.fault .unclosedList
  | fuel + 1, before, at' =>
    match at'.nextItem before.isEmpty with
    | .error fault => .error fault
    | .ok none => .ok (before.reverse, at'.token)
    | .ok (some place) =>
      match item place with
      | .error fault => .error fault
      | .ok (x, next) => itemsFrom item fuel (x :: before) next

def items {α : Type} (item : Cursor → Reading α) (at' : Cursor) : Reading (List α) :=
  match itemsFrom item (at'.rest.length + 1) [] at'.advance with
  | .error fault => .error fault
  | .ok (xs, next) => next.closeList.map fun after => (xs, after)

/-- Reads the members up to the closing brace, which is left; `before` holds those read, in reverse. -/
def membersFrom {α : Type} (value : Cursor → Reading α) :
    Nat → List (String × α) → Cursor → Reading (List (String × α))
  | 0, _, at' => at'.fault .unclosedObject
  | fuel + 1, before, at' =>
    match at'.nextName before.isEmpty with
    | .error fault => .error fault
    | .ok none => .ok (before.reverse, at'.token)
    | .ok (some place) =>
      match place.string with
      | .error fault => .error fault
      | .ok (name, next) =>
        match next.colon with
        | .error fault => .error fault
        | .ok next =>
          match value next with
          | .error fault => .error fault
          | .ok (x, next) => membersFrom value fuel ((name, x) :: before) next

def members {α : Type} (value : Cursor → Reading α) (at' : Cursor) : Reading (List (String × α)) :=
  match membersFrom value (at'.rest.length + 1) [] at'.advance with
  | .error fault => .error fault
  | .ok (xs, next) => next.closeObject.map fun after => (xs, after)

/-- Reads a literal whose first letter is the next character. -/
def literal (letters' : List Char) (value : Value) (at' : Cursor) : Reading Value :=
  (letters letters' at'.advance).map fun next => (value, next)

/-- Reads a value that is no list and no object. -/
def scalar (at' : Cursor) : Reading Value :=
  match at'.rest with
  | [] => at'.faultAhead .missingValue
  | 'n' :: _ => at'.literal ['u', 'l', 'l'] .null
  | 't' :: _ => at'.literal ['r', 'u', 'e'] (.boolean true)
  | 'f' :: _ => at'.literal ['a', 'l', 's', 'e'] (.boolean false)
  | '"' :: _ => at'.string.map fun (s, next) => (.text s, next)
  | c :: _ =>
    if c == '-' || c.isDigit then at'.signedNumber.map fun (n, next) => (.number n, next)
    else at'.faultAhead .expectedValue

/-- Reads a value that may open `depth` brackets inside each other. -/
def value : Nat → Cursor → Reading Value
  | 0, at' =>
    let next := at'.token
    match next.opening? with
    | none => next.scalar
    | some _ => next.faultAhead .nestedTooDeep
  | depth + 1, at' =>
    let next := at'.token
    match next.opening? with
    | none => next.scalar
    | some .list => (next.items (value depth)).map fun (xs, after) => (.list xs, after)
    | some .object => (next.members (value depth)).map fun (xs, after) => (.object xs, after)

def finished (at' : Cursor) : Except Fault Unit :=
  let next := at'.token
  if next.rest.isEmpty then .ok () else next.faultAhead .trailingCharacters

end Cursor

def readValue (source : String) : Except Fault Value :=
  match (Cursor.start source).value greatestDepth with
  | .error fault => .error fault
  | .ok (value, next) => next.finished.map fun _ => value

end Switchboard.Json
