import Switchboard.Argument.Schema

/-!
Filled arguments. They come as a filled schema or as a plain JSON object of keys and values, where a
value that is no string counts as its JSON text and null as nothing.
-/

namespace Switchboard

structure ArgumentValues where
  entries : List ArgumentEntry
  deriving DecidableEq, Repr, Inhabited

namespace ArgumentValues

open Json

/-- What a JSON value counts as. -/
def valueText : Value → String
  | .text s => s
  | .null => ""
  | value => value.compact

/-- Takes the arguments from the members of an object whose names are distinct and ordered. -/
def ofMembers (members : List (String × Value)) : Except Failure ArgumentValues :=
  if members.any fun member => member.1 == "entries" then
    match ArgumentSchema.shape.decoder.ofValue .refused (.object members) with
    | .ok schema => .ok ⟨schema.entries⟩
    | .error cause => .error (.serialization cause.message)
  else .ok ⟨members.map fun (key, value) => { key, value := valueText value }⟩

def parse (data : String) : Except Failure ArgumentValues :=
  match readValue data with
  | .error fault => .error (.serialization (fault.message data))
  | .ok value =>
    match value.canonical with
    | .object members => ofMembers members
    | other => .error (.serialization ("expected a JSON object, got " ++ other.compact))

def ofPairs (pairs : List (String × String)) : ArgumentValues :=
  ⟨pairs.map fun (key, value) => { key, value }⟩

/-- The value of a key without the blanks around it; a blank value counts as missing. -/
def get? (values : ArgumentValues) (key : String) : Option String :=
  ((lookupEntry key values.entries).map Text.trim).filter (· != "")

/-- The value of a key, or why there is none. -/
def require (values : ArgumentValues) (key : String) : Except String String :=
  match values.get? key with
  | some value => .ok value
  | none => .error ("missing " ++ key)

/-- The value of a key as it is read, or why it cannot be. -/
def parseAs {α : Type} (read? : String → Option α) (values : ArgumentValues) (key : String) :
    Except String α :=
  match values.require key with
  | .error reason => .error reason
  | .ok raw =>
    match read? raw with
    | some x => .ok x
    | none => .error (raw ++ " is not a valid value for " ++ key)

end ArgumentValues

def readBoolean? (text : String) : Option Bool :=
  if text == "true" then some true else if text == "false" then some false else none

end Switchboard
