import Switchboard.Service.Basic
import Switchboard.Json.Tagged

/-!
The file that advertises a service: the service with the process that wrote it and the time. When it is
read, the process and the time are taken in passing and the service from what else was there.
-/

namespace Switchboard

structure ServiceRecord where
  service : Service
  /-- The process that advertised the service. -/
  pid : UInt32
  /-- The time in seconds. -/
  advertisedAt : UInt64
  deriving DecidableEq, Repr

namespace Service

open Json

def shape : RecordShape Service where
  name := "ServiceInfo"
  fields := [
    .mandatory "name" .text fun name s => { s with name },
    .mandatory "host" .text fun host s => { s with host },
    .mandatory "port" (.natural 16) fun port s => { s with port := .ofNat port }]
  blank := ⟨"", "", 0⟩

end Service

namespace ServiceRecord

open Json

def toJson (r : ServiceRecord) : String :=
  Value.indented [("name", .text r.service.name), ("host", .text r.service.host),
    ("port", .number (.integer r.service.port.toNat)), ("pid", .number (.integer r.pid.toNat)),
    ("advertised_at", .number (.integer r.advertisedAt.toNat))]

structure Partial where
  pid : Option UInt32 := none
  advertisedAt : Option UInt64 := none
  /-- The other members, the newest first. -/
  others : List (String × Value) := []

/-- Ends a service file once all members are read. -/
def complete (r : Partial) : Except Cause ServiceRecord :=
  match r.pid, r.advertisedAt with
  | none, _ => .error (.missingField "pid")
  | _, none => .error (.missingField "advertised_at")
  | some pid, some advertisedAt =>
    (Service.shape.ofMembers .counted r.others.reverse [] Service.shape.blank).map fun service =>
      { service, pid, advertisedAt }

def member (name : String) (r : Partial) (at' : Cursor) : Reading Partial :=
  if name == "pid" then
    ((Decoder.natural 32).read at').map fun (pid, next) => ({ r with pid := some (.ofNat pid) }, next)
  else if name == "advertised_at" then
    ((Decoder.natural 64).read at').map fun (time, next) =>
      ({ r with advertisedAt := some (.ofNat time) }, next)
  else
    (at'.value (greatestDepth - 1)).map fun (value, next) =>
      ({ r with others := (name, value) :: r.others }, next)

/-- Tells whether a member that may come only once has come before. -/
def repeats (name : String) (r : Partial) : Bool :=
  (name == "pid" && r.pid.isSome) || (name == "advertised_at" && r.advertisedAt.isSome)

/-- Reads the members up to the closing brace, which is left. -/
def membersFrom : Nat → Bool → Partial → Cursor → Reading (Except Cause ServiceRecord)
  | 0, _, _, at' => at'.fault .unclosedObject
  | fuel + 1, isFirst, r, at' =>
    match at'.nextName isFirst with
    | .error fault => .error fault
    | .ok none => .ok (complete r, at'.token)
    | .ok (some place) =>
      match place.string with
      | .error fault => .error fault
      | .ok (name, next) =>
        if repeats name r then .ok (.error (.duplicateField name), next)
        else
          match next.colon with
          | .error fault => .error fault
          | .ok next =>
            match member name r next with
            | .error fault => .error fault
            | .ok (r, next) => membersFrom fuel false r next

def read (at' : Cursor) : Reading ServiceRecord :=
  let next := at'.token
  match next.opening? with
  | some .object =>
    match membersFrom (next.rest.length + 1) true {} next.advance with
    | .error fault => .error fault
    | .ok (.error cause, place) => place.leaveObject.fault cause
    | .ok (.ok record, place) => place.closeObject.map fun after => (record, after)
  | _ => next.wrongType "struct ServiceFile"

/-- Reads the text of a service file; where it is not one, the message says why. -/
def ofJson (source : String) : Except String ServiceRecord :=
  match read (Cursor.start source) with
  | .error fault => .error (fault.message source)
  | .ok (record, next) =>
    match next.finished with
    | .error fault => .error (fault.message source)
    | .ok () => .ok record

end ServiceRecord

end Switchboard
