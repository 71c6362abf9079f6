import Switchboard.Payload.Basic
import Switchboard.Json.Decoder
import Switchboard.Text.Blank

/-!
Messages as lines of JSON. Missing fields are left out, so that they stay apart from empty ones. A line
that is blank or no message reads as a ping.
-/

namespace Switchboard

/-- Why bytes or lines were refused. -/
inductive WireError
  | lineTooLong (size limit : Nat)
  | invalidJson (reason : String)
  deriving DecidableEq, Repr

def WireError.message : WireError → String
  | lineTooLong size limit => "Message too large: " ++ toString size ++ " > " ++ toString limit
  | invalidJson reason => "Invalid JSON: " ++ reason

namespace Payload

open Json

def shape : RecordShape Payload where
  name := "Payload"
  fields := [
    .withDefault "key" .text fun key p => { p with key },
    .withDefault "action" (.optional .text) fun action p => { p with action },
    .withDefault "data" (.optional .text) fun data p => { p with data },
    .withDefault "response" (.optional .text) fun response p => { p with response },
    .withDefault "commands" (.list .text) fun commands p => { p with commands }]
  blank := {}

def optionalMember (name : String) (value : Option String) : List (String × Value) :=
  match value with
  | some text => [(name, .text text)]
  | none => []

def toValue (p : Payload) : Value :=
  .object (("key", .text p.key) ::
    (optionalMember "action" p.action ++ optionalMember "data" p.data ++
      optionalMember "response" p.response ++
      if p.commands.isEmpty then [] else [("commands", .list (p.commands.map .text))]))

/-- The line of a message, without its end. -/
def encode (p : Payload) : String :=
  p.toValue.compact

/-- The bytes of the line of a message, with its end. -/
def encodeLine (p : Payload) : List UInt8 :=
  p.encode.toUTF8.toList ++ [10]

/-- Reads a line, or says why it is no message. -/
def decodeStrict (line : String) : Except WireError Payload :=
  let line := Text.trim line
  match shape.decoder.decode line with
  | .ok p => .ok p
  | .error fault => .error (.invalidJson (fault.message line))

/-- Reads a line; what is no message is a ping. -/
def decode (line : String) : Payload :=
  match decodeStrict line with
  | .ok p => p
  | .error _ => ping

end Payload

end Switchboard
