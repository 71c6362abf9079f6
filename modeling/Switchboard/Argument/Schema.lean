import Switchboard.Failure
import Switchboard.Payload.Codec

/-!
Schemas: the description of a command's arguments that is sent to a controller, filled there and sent
back. Keys may repeat; looking up and setting concern the first entry of a key.
-/

namespace Switchboard

structure ArgumentEntry where
  key : String
  value : String := ""
  deriving DecidableEq, Repr, Inhabited

structure ArgumentSchema where
  command : String
  description : String := ""
  /-- How the command is written with its arguments. -/
  usage : String := ""
  entries : List ArgumentEntry := []
  deriving DecidableEq, Repr, Inhabited

namespace ArgumentEntry

open Json

def shape : RecordShape ArgumentEntry where
  name := "ArgEntry"
  fields := [
    .mandatory "key" .text fun key entry => { entry with key },
    .withDefault "value" .text fun value entry => { entry with value }]
  blank := { key := "" }

def toValue (entry : ArgumentEntry) : Value :=
  .object [("key", .text entry.key), ("value", .text entry.value)]

end ArgumentEntry

/-- The value of the first entry of a key. -/
def lookupEntry (key : String) (entries : List ArgumentEntry) : Option String :=
  (entries.find? fun entry => entry.key == key).map ArgumentEntry.value

/-- Sets the value of the first entry of a key; without such an entry nothing changes. -/
def setEntry (key value : String) : List ArgumentEntry → List ArgumentEntry
  | [] => []
  | entry :: rest =>
    if entry.key == key then { entry with value } :: rest else entry :: setEntry key value rest

namespace ArgumentSchema

open Json

def shape : RecordShape ArgumentSchema where
  name := "ArgSchema"
  fields := [
    .mandatory "command" .text fun command s => { s with command },
    .withDefault "description" .text fun description s => { s with description },
    .withDefault "syntax" .text fun usage s => { s with usage },
    .withDefault "entries" (.list ArgumentEntry.shape.decoder) fun entries s => { s with entries }]
  blank := { command := "" }

def toValue (s : ArgumentSchema) : Value :=
  .object [("command", .text s.command), ("description", .text s.description),
    ("syntax", .text s.usage), ("entries", .list (s.entries.map ArgumentEntry.toValue))]

def toJson (s : ArgumentSchema) : String :=
  s.toValue.compact

def ofJson (source : String) : Except Failure ArgumentSchema :=
  match shape.decoder.decode source with
  | .ok s => .ok s
  | .error fault => .error (.serialization (fault.message source))

def entry (s : ArgumentSchema) (key value : String) : ArgumentSchema :=
  { s with entries := s.entries ++ [{ key, value }] }

def get? (s : ArgumentSchema) (key : String) : Option String :=
  lookupEntry key s.entries

def set (s : ArgumentSchema) (key value : String) : ArgumentSchema :=
  { s with entries := setEntry key value s.entries }

def challenge (s : ArgumentSchema) (key : String) (commands : List String) : Payload :=
  { key
    action := some Action.commandInfo
    data := some s.toJson
    response := some (s.command ++ " needs arguments: " ++ s.usage)
    commands }

/-- The request that answers a challenge: the command with the filled schema as its data. -/
def resubmission (s : ArgumentSchema) (values : List (String × String)) : Payload :=
  let filled := values.foldl (fun s (key, value) => s.set key value) s
  { Payload.request s.command with data := some filled.toJson }

end ArgumentSchema

end Switchboard
