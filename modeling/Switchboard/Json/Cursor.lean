import Switchboard.Json.Fault

/-!
A place in a JSON text: the characters still to come and the number of bytes before them. Reading a
piece of syntax gives what was read and the place after it, or a fault.
-/

namespace Switchboard.Json

/-- A place in a text. -/
structure Cursor where
  rest : List Char
  offset : Nat
  deriving DecidableEq, Repr

/-- What reading at a place gives: a result and the place after it. -/
abbrev Reading (α : Type) := Except Fault (α × Cursor)

def isSpace (c : Char) : Bool :=
  c == ' ' || c == '\n' || c == '\t' || c == '\r'

namespace Cursor

def start (text : String) : Cursor :=
  ⟨text.toList, 0⟩

def fault {α : Type} (at' : Cursor) (cause : Cause) : Except Fault α :=
  .error ⟨cause, at'.offset⟩

/-- A fault of the next byte, or of the end when there is none. -/
def faultAhead {α : Type} (at' : Cursor) (cause : Cause) : Except Fault α :=
  .error ⟨cause, if at'.rest.isEmpty then at'.offset else at'.offset + 1⟩

/-- A fault of the next byte once it is taken. -/
def faultAfterByte {α : Type} (at' : Cursor) (cause : Cause) : Except Fault α :=
  .error ⟨cause, at'.offset + 1⟩

/-- The place after the spaces that come next. -/
def skipSpaces (rest : List Char) (offset : Nat) : Cursor :=
  match rest with
  | c :: more => if isSpace c then skipSpaces more (offset + 1) else ⟨c :: more, offset⟩
  | [] => ⟨[], offset⟩

/-- The place of the next token. -/
def token (at' : Cursor) : Cursor :=
  skipSpaces at'.rest at'.offset

/-- The place after the next character. -/
def advance (at' : Cursor) : Cursor :=
  match at'.rest with
  | c :: more => ⟨more, at'.offset + c.utf8Size⟩
  | [] => at'

def digits (at' : Cursor) : List Char × Cursor :=
  let run := at'.rest.takeWhile Char.isDigit
  (run, ⟨at'.rest.dropWhile Char.isDigit, at'.offset + run.length⟩)

def letters : List Char → Cursor → Except Fault Cursor
  | [], at' => .ok at'
  | letter :: more, at' =>
    match at'.rest with
    | [] => at'.fault .missingValue
    | c :: _ => if c == letter then letters more at'.advance else at'.faultAfterByte .misspeltLiteral

/-- Reads the colon after a member's name. -/
def colon (at' : Cursor) : Except Fault Cursor :=
  let next := at'.token
  match next.rest with
  | ':' :: _ => .ok next.advance
  | [] => next.faultAhead .unclosedObject
  | _ => next.faultAhead .expectedColon

def closeList (at' : Cursor) : Except Fault Cursor :=
  let next := at'.token
  match next.rest with
  | ']' :: _ => .ok next.advance
  | ',' :: _ =>
    let after := next.advance.token
    match after.rest with
    | ']' :: _ => after.faultAhead .trailingComma
    | _ => after.faultAhead .trailingCharacters
  | [] => next.faultAhead .unclosedList
  | _ => next.faultAhead .trailingCharacters

def closeObject (at' : Cursor) : Except Fault Cursor :=
  let next := at'.token
  match next.rest with
  | '\x7d' :: _ => .ok next.advance
  | ',' :: _ => next.faultAhead .trailingComma
  | [] => next.faultAhead .unclosedObject
  | _ => next.faultAhead .trailingCharacters

/-- The place reached by trying to close a list whose reading was given up. -/
def leaveList (at' : Cursor) : Cursor :=
  let next := at'.token
  match next.rest with
  | ']' :: _ => next.advance
  | ',' :: _ => next.advance.token
  | _ => next

/-- The place reached by trying to close an object whose reading was given up. -/
def leaveObject (at' : Cursor) : Cursor :=
  let next := at'.token
  match next.rest with
  | '\x7d' :: _ => next.advance
  | _ => next

/-- The place of the next item, or nothing when the list ends there. -/
def nextItem (isFirst : Bool) (at' : Cursor) : Except Fault (Option Cursor) :=
  let next := at'.token
  match next.rest, isFirst with
  | [], _ => next.faultAhead .unclosedList
  | ']' :: _, _ => .ok none
  | _ :: _, true => .ok (some next)
  | ',' :: _, false =>
    let after := next.advance.token
    match after.rest with
    | ']' :: _ => after.faultAhead .trailingComma
    | [] => after.faultAhead .missingValue
    | _ => .ok (some after)
  | _ :: _, false => next.faultAhead .expectedListEnd

/-- The place of the next member's name, or nothing when the object ends there. -/
def nextName (isFirst : Bool) (at' : Cursor) : Except Fault (Option Cursor) :=
  let next := at'.token
  match next.rest, isFirst with
  | [], _ => next.faultAhead .unclosedObject
  | '\x7d' :: _, _ => .ok none
  | '"' :: _, true => .ok (some next)
  | _ :: _, true => next.faultAhead .keyNotString
  | ',' :: _, false =>
    let after := next.advance.token
    match after.rest with
    | '"' :: _ => .ok (some after)
    | '\x7d' :: _ => after.faultAhead .trailingComma
    | [] => after.faultAhead .missingValue
    | _ => after.faultAhead .keyNotString
  | _ :: _, false => next.faultAhead .expectedObjectEnd

end Cursor

end Switchboard.Json
