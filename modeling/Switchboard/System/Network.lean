import Switchboard.System.Address
import Switchboard.System.Error
import Switchboard.Text.Blank

/-!
Reaching addresses that are given as text: a numeric address, or a host and a port with a colon between
them. A host without network reaches nothing, and for each address there is one reason why.
-/

namespace Switchboard

/-- Why an address was not reached. -/
inductive ReachError
  /-- There is no port after a colon. -/
  | noPort
  | invalidPort
  | zeroByte
  /-- The host is no name that could be looked up. -/
  | unknownName
  /-- There is nobody to ask for the name. -/
  | noResolver
  | system (cause : SystemError)
  deriving DecidableEq, Repr

/-- The words for an address that was not reached. -/
def ReachError.message : ReachError → String
  | noPort => "invalid socket address"
  | invalidPort => "invalid port value"
  | zeroByte => "file name contained an unexpected NUL byte"
  | unknownName => "failed to lookup address information: Name or service not known"
  | noResolver => "failed to lookup address information: Temporary failure in name resolution"
  | system cause => cause.message

abbrev Network := String → Except ReachError Unit

namespace Network

/-- Cuts a text at its last colon. -/
def splitPort? (text : String) : Option (String × String) :=
  let reversed := text.toList.reverse
  match reversed.dropWhile (· != ':') with
  | [] => none
  | _ :: host =>
    some (String.ofList host.reverse, String.ofList (reversed.takeWhile (· != ':')).reverse)

def digits? (base : Nat) (chars : List Char) : Option Nat :=
  if chars.isEmpty || !chars.all fun c => (hexDigitValue? c).any (· < base) then none
  else some (numberToBase base chars)

/-- Reads one part of a numeric host: decimal, octal after a zero, or hexadecimal after `0x`. -/
def hostPart? : List Char → Option Nat
  | '0' :: 'x' :: rest => digits? 16 rest
  | '0' :: 'X' :: rest => digits? 16 rest
  | '0' :: rest => if rest.isEmpty then some 0 else digits? 8 rest
  | rest => digits? 10 rest

/-- Holds of hosts that are one to four numbers, the last of which fills what the others leave. -/
def isNumeric (host : String) : Bool :=
  let parts := host.splitOn "."
  parts.length ≤ 4 &&
    match (parts.mapM fun part => hostPart? part.toList).map List.reverse with
    | some (last :: front) => front.all (· < 256) && decide (last < Nat.pow 256 (4 - front.length))
    | _ => false

def isNameChar (c : Char) : Bool :=
  c.isAlphanum || c == '-' || c == '_'

/-- Holds of hosts that are names: labels of at most 63 characters with dots between them, and perhaps one
at the end. -/
def isName (host : String) : Bool :=
  let labels := host.splitOn "."
  let labels := if labels.getLast? == some "" then labels.dropLast else labels
  !host.startsWith "-" && host != "" && host.length ≤ 254 &&
    (host == "." || labels.all fun label => label != "" && label.length ≤ 63 && label.all isNameChar)

/-- This machine, as the host of an address. -/
def loopback : IpAddress := .v4 127 0 0 1

def lookUp (host : String) : Except ReachError (IpAddress × UInt32) :=
  if host.contains '\x00' then .error .zeroByte
  else if isNumeric host || Text.eqIgnoreCase host "localhost" then .ok (loopback, 0)
  else
    match IpAddress.eightParts host.toList with
    | some (ip, []) => .ok (ip, 0)
    | _ => .error (if isName host then .noResolver else .unknownName)

def locate (text : String) : Except ReachError (IpAddress × UInt32) :=
  match SocketAddress.ofText? text, splitPort? text with
  | some address, _ => .ok (address.ip, address.scope)
  | none, none => .error .noPort
  | none, some (host, port) =>
    match Decimal.unsigned? 16 port with
    | none => .error .invalidPort
    | some _ => lookUp host

/-- Why a host without network does not reach an address: four-part ones, also within eight parts, and
groups of listeners have no route, a neighbour needs a scope, and for the rest there is no own address. -/
def obstacle (ip : IpAddress) (scope : UInt32) : SystemError :=
  match ip with
  | .v4 .. => .networkUnreachable
  | .v6 groups =>
    match groups.toList with
    | [0, 0, 0, 0, 0, 0xffff, _, _] => .networkUnreachable
    | first :: _ =>
      if first / 256 == 0xff then .networkUnreachable
      else if first / 64 == 0x3fa && scope == 0 then .invalidArgument
      else .addressUnavailable
    | [] => .addressUnavailable

/-- The network of a host that has none. -/
def offline : Network := fun text =>
  match locate text with
  | .error e => .error e
  | .ok (ip, scope) => .error (.system (obstacle ip scope))

end Network

end Switchboard
