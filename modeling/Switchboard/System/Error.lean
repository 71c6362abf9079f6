/-!
Errors of the operating system as they show in messages: a short description and the number.
-/

namespace Switchboard

inductive SystemError
  | noSuchFile
  | fileExists
  | notDirectory
  | isDirectory
  | invalidArgument
  | nameTooLong
  | addressUnavailable
  | networkUnreachable
  | connectionRefused
  deriving DecidableEq, Repr

namespace SystemError

def code : SystemError → Nat
  | noSuchFile => 2
  | fileExists => 17
  | notDirectory => 20
  | isDirectory => 21
  | invalidArgument => 22
  | nameTooLong => 36
  | addressUnavailable => 99
  | networkUnreachable => 101
  | connectionRefused => 111

def description : SystemError → String
  | noSuchFile => "No such file or directory"
  | fileExists => "File exists"
  | notDirectory => "Not a directory"
  | isDirectory => "Is a directory"
  | invalidArgument => "Invalid argument"
  | nameTooLong => "File name too long"
  | addressUnavailable => "Cannot assign requested address"
  | networkUnreachable => "Network is unreachable"
  | connectionRefused => "Connection refused"

def message (e : SystemError) : String :=
  e.description ++ " (os error " ++ toString e.code ++ ")"

end SystemError

end Switchboard
