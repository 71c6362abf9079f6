import Switchboard.Json.Reader

/-!
Decoders: from the same description, a typed value is read from a text, where faults have a place, or
taken from a value that was read before, where they have none. A record is written as an object whose
members are its fields, or as a list of the fields in order.
-/

namespace Switchboard.Json

/-- What becomes of list items beyond the fields of a record. -/
inductive Surplus
  /-- They are refused, counting what was there. -/
  | refused
  /-- They are refused, counting what was wanted. -/
  | counted
  /-- They are passed over. -/
  | ignored
  deriving DecidableEq, Repr

/-- Two ways to the same typed value. -/
structure Decoder (α : Type) where
  read : Cursor → Reading α
  ofValue : Surplus → Value → Except Cause α

namespace Cursor

/-- Reads a value of the wrong kind, only to report it; lists and objects are left unread. -/
def wrongType {α : Type} (expected : String) (at' : Cursor) : Except Fault α :=
  let next := at'.token
  match next.opening? with
  | some .list => next.fault (.wrongType .list expected)
  | some .object => next.fault (.wrongType .object expected)
  | none =>
    match next.scalar with
    | .error fault => .error fault
    | .ok (found, after) => after.fault (.wrongType (.ofValue found) expected)

end Cursor

namespace Decoder

def map {α β : Type} (f : α → β) (d : Decoder α) : Decoder β where
  read at' := (d.read at').map fun (x, next) => (f x, next)
  ofValue surplus value := (d.ofValue surplus value).map f

def text : Decoder String where
  read at' :=
    let next := at'.token
    match next.rest with
    | '"' :: _ => next.string
    | _ => next.wrongType "a string"
  ofValue _ value :=
    match value with
    | .text s => .ok s
    | _ => .error (.wrongType (.ofValue value) "a string")

def boolean : Decoder Bool where
  read at' :=
    let next := at'.token
    match next.rest with
    | 't' :: _ => (Cursor.letters ['r', 'u', 'e'] next.advance).map fun after => (true, after)
    | 'f' :: _ => (Cursor.letters ['a', 'l', 's', 'e'] next.advance).map fun after => (false, after)
    | _ => next.wrongType "a boolean"
  ofValue _ value :=
    match value with
    | .boolean b => .ok b
    | _ => .error (.wrongType (.ofValue value) "a boolean")

/-- The integer that a number is, if the width holds it. -/
def integerOf (width : IntWidth) (n : Number) : Except Cause Int :=
  match n with
  | .integer i => if width.holds i then .ok i else .error (.wrongValue (.number n) width.name)
  | .double _ => .error (.wrongType (.number n) width.name)

def integer (width : IntWidth) : Decoder Int where
  read at' :=
    let next := at'.token
    match next.rest with
    | c :: _ =>
      if c == '-' || c.isDigit then
        match next.signedNumber with
        | .error fault => .error fault
        | .ok (n, after) =>
          match integerOf width n with
          | .ok i => .ok (i, after)
          | .error cause => after.fault cause
      else next.wrongType width.name
    | [] => next.wrongType width.name
  ofValue _ value :=
    match value with
    | .number n => integerOf width n
    | _ => .error (.wrongType (.ofValue value) width.name)

/-- Decodes a natural number below `2 ^ bits`. -/
def natural (bits : Nat) : Decoder Nat :=
  (integer (.unsigned bits)).map Int.toNat

def optional {α : Type} (d : Decoder α) : Decoder (Option α) where
  read at' :=
    let next := at'.token
    match next.rest with
    | 'n' :: _ => (Cursor.letters ['u', 'l', 'l'] next.advance).map fun after => (none, after)
    | _ => (d.map some).read next
  ofValue surplus value :=
    match value with
    | .null => .ok none
    | _ => (d.map some).ofValue surplus value

def list {α : Type} (d : Decoder α) : Decoder (List α) where
  read at' :=
    let next := at'.token
    match next.rest with
    | '[' :: _ => next.items d.read
    | _ => next.wrongType "a sequence"
  ofValue surplus value :=
    match value with
    | .list items => items.mapM (d.ofValue surplus)
    | _ => .error (.wrongType (.ofValue value) "a sequence")

def decode {α : Type} (d : Decoder α) (source : String) : Except Fault α :=
  match d.read (Cursor.start source) with
  | .error fault => .error fault
  | .ok (x, next) => next.finished.map fun _ => x

end Decoder

/-- One field of a record that is filled step by step. -/
structure Field (σ : Type) where
  name : String
  /-- Tells whether the field may not be left out. -/
  required : Bool
  decode : Decoder (σ → σ)

namespace Field

/-- A field that may not be left out. -/
def mandatory {σ α : Type} (name : String) (d : Decoder α) (set : α → σ → σ) : Field σ :=
  ⟨name, true, d.map set⟩

/-- A field that keeps its default when it is left out. -/
def withDefault {σ α : Type} (name : String) (d : Decoder α) (set : α → σ → σ) : Field σ :=
  ⟨name, false, d.map set⟩

end Field

structure RecordShape (σ : Type) where
  /-- The record as messages name it. -/
  name : String
  fields : List (Field σ)
  /-- The record before any field is filled. -/
  blank : σ

def countElements (n : Nat) : String :=
  toString n ++ (if n == 1 then " element" else " elements")

namespace RecordShape

variable {σ : Type}

/-- What the record is called where another kind of value was found. -/
def expected (shape : RecordShape σ) : String :=
  "struct " ++ shape.name

/-- What the record is called where its list is too short. -/
def expectedList (shape : RecordShape σ) : String :=
  shape.expected ++ " with " ++ countElements shape.fields.length

def field? (shape : RecordShape σ) (name : String) : Option (Field σ) :=
  shape.fields.find? fun field => field.name == name

/-- Ends a record once all members are read: no required field may be unseen. -/
def complete (shape : RecordShape σ) (seen : List String) (record : σ) : Except Cause σ :=
  match shape.fields.find? fun field => field.required && !seen.contains field.name with
  | some field => .error (.missingField field.name)
  | none => .ok record

/-- Reads the members of a record up to the closing brace, which is left. -/
def membersFrom (shape : RecordShape σ) :
    Nat → Bool → List String → σ → Cursor → Reading (Except Cause σ)
  | 0, _, _, _, at' => at'.fault .unclosedObject
  | fuel + 1, isFirst, seen, record, at' =>
    match at'.nextName isFirst with
    | .error fault => .error fault
    | .ok none => .ok (shape.complete seen record, at'.token)
    | .ok (some place) =>
      match place.string with
      | .error fault => .error fault
      | .ok (name, next) =>
        match shape.field? name with
        | none =>
          match next.colon with
          | .error fault => .error fault
          | .ok next =>
            match next.skipValue with
            | .error fault => .error fault
            | .ok next => membersFrom shape fuel false seen record next
        | some field =>
          if seen.contains name then .ok (.error (.duplicateField name), next)
          else
            match next.colon with
            | .error fault => .error fault
            | .ok next =>
              match field.decode.read next with
              | .error fault => .error fault
              | .ok (fill, next) => membersFrom shape fuel false (name :: seen) (fill record) next

/-- Reads the fields of a record from a list, up to the item after the last. -/
def itemsFrom (shape : RecordShape σ) :
    List (Field σ) → Nat → σ → Cursor → Reading (Except Cause σ)
  | [], _, record, at' => .ok (.ok record, at')
  | field :: fields, index, record, at' =>
    match at'.nextItem (index == 0) with
    | .error fault => .error fault
    | .ok none =>
      if field.required then .ok (.error (.wrongLength index shape.expectedList), at')
      else itemsFrom shape fields (index + 1) record at'
    | .ok (some place) =>
      match field.decode.read place with
      | .error fault => .error fault
      | .ok (fill, next) => itemsFrom shape fields (index + 1) (fill record) next

def ofMembers (shape : RecordShape σ) (surplus : Surplus) :
    List (String × Value) → List String → σ → Except Cause σ
  | [], seen, record => shape.complete seen record
  | (name, value) :: members, seen, record =>
    match shape.field? name with
    | none => ofMembers shape surplus members seen record
    | some field =>
      if seen.contains name then .error (.duplicateField name)
      else
        match field.decode.ofValue surplus value with
        | .error cause => .error cause
        | .ok fill => ofMembers shape surplus members (name :: seen) (fill record)

/-- Takes the fields of a record from list items; `total` counts the items there were. -/
def ofItems (shape : RecordShape σ) (surplus : Surplus) (total : Nat) :
    List (Field σ) → List Value → Nat → σ → Except Cause σ
  | [], [], _, record => .ok record
  | [], _ :: _, _, record =>
    match surplus with
    | .refused => .error (.wrongLength total "fewer elements in array")
    | .counted =>
      .error (.wrongLength total (countElements shape.fields.length ++ " in sequence"))
    | .ignored => .ok record
  | field :: fields, [], index, record =>
    if field.required then .error (.wrongLength index shape.expectedList)
    else ofItems shape surplus total fields [] (index + 1) record
  | field :: fields, value :: values, index, record =>
    match field.decode.ofValue surplus value with
    | .error cause => .error cause
    | .ok fill => ofItems shape surplus total fields values (index + 1) (fill record)

def decoder (shape : RecordShape σ) : Decoder σ where
  read at' :=
    let next := at'.token
    match next.rest with
    | '\x7b' :: _ =>
      match shape.membersFrom (next.rest.length + 1) true [] shape.blank next.advance with
      | .error fault => .error fault
      | .ok (.error cause, place) => place.leaveObject.fault cause
      | .ok (.ok record, place) => place.closeObject.map fun after => (record, after)
    | '[' :: _ =>
      match shape.itemsFrom shape.fields 0 shape.blank next.advance with
      | .error fault => .error fault
      | .ok (.error cause, place) => place.leaveList.fault cause
      | .ok (.ok record, place) => place.closeList.map fun after => (record, after)
    | _ => next.wrongType shape.expected
  ofValue surplus value :=
    match value with
    | .object members => shape.ofMembers surplus members [] shape.blank
    | .list items => shape.ofItems surplus items.length shape.fields items 0 shape.blank
    | _ => .error (.wrongType (.ofValue value) shape.expected)

end RecordShape

end Switchboard.Json
