import Switchboard.Decimal.Integer

/-!
Reading a command line of long and short options. An option waits for its value in the next argument;
an unknown argument is reported before a value that is missing.
-/

namespace Switchboard

/-- Why a command line was refused, or what it asks for instead. -/
inductive OptionError
  | unknownArgument
  | invalidValue
  | valueValidation
  | argumentConflict
  | tooManyValues
  | displayHelp
  | displayVersion
  deriving DecidableEq, Repr

inductive OptionKind
  | flag
  | text
  /-- A path, which may not be empty. -/
  | path
  /-- A port number. -/
  | port
  | help
  | version
  deriving DecidableEq, Repr

/-- An option, its long name and its letter. -/
structure OptionSpec where
  name : String
  letter : Option Char := none
  kind : OptionKind
  deriving DecidableEq, Repr

/-- The options given so far, each with its value, and the option that waits for one. -/
structure OptionState where
  given : List (String × String) := []
  waiting : Option (OptionSpec × List String) := none
  deriving Repr

namespace OptionKind

def takesValue : OptionKind → Bool
  | text | path | port => true
  | flag | help | version => false

end OptionKind

/-- Reads a port: an integer of 64 bits between 0 and 65535. -/
def readPort? (text : String) : Option UInt16 :=
  match Decimal.integer? (.signed 64) text.toList with
  | some n => if 0 ≤ n ∧ n < 65536 then some (.ofNat n.toNat) else none
  | none => none

namespace OptionSpec

def check (spec : OptionSpec) (value : String) : Except OptionError Unit :=
  match spec.kind with
  | .path => if value == "" then .error .invalidValue else .ok ()
  | .port => if (readPort? value).isSome then .ok () else .error .valueValidation
  | _ => .ok ()

end OptionSpec

namespace OptionState

/-- Records an option with its values, of which a value option has one. -/
def record (s : OptionState) (spec : OptionSpec) (values : List String) :
    Except OptionError OptionState :=
  match spec.kind, values with
  | .help, _ => .error .displayHelp
  | .version, _ => .error .displayVersion
  | .flag, _ =>
    if (s.given.lookup spec.name).isSome then .error .argumentConflict
    else .ok { s with given := (spec.name, "") :: s.given }
  | _, [] => .error .invalidValue
  | _, value :: _ =>
    if (s.given.lookup spec.name).isSome then .error .argumentConflict
    else
      match spec.check value with
      | .error e => .error e
      | .ok () => .ok { s with given := (spec.name, value) :: s.given }

/-- Records the option that waits, if any. -/
def resolve (s : OptionState) : Except OptionError OptionState :=
  match s.waiting with
  | none => .ok s
  | some (spec, values) => { s with waiting := none }.record spec values

/-- Takes an option with the value attached to it, if any. -/
def take (s : OptionState) (spec : OptionSpec) (attached : Option String) :
    Except OptionError OptionState :=
  match s.resolve with
  | .error e => .error e
  | .ok s =>
    if spec.kind.takesValue then
      match attached with
      | some value => s.record spec [value]
      | none => .ok { s with waiting := some (spec, []) }
    else s.record spec []

def takeLong (specs : List OptionSpec) (s : OptionState) (body : List Char) :
    Except OptionError OptionState :=
  let name := String.ofList (body.takeWhile (· != '='))
  let attached :=
    match body.dropWhile (· != '=') with
    | [] => none
    | _ :: value => some (String.ofList value)
  match specs.find? fun spec => spec.name == name with
  | none => .error .unknownArgument
  | some spec =>
    if attached.isSome && !spec.kind.takesValue then .error .tooManyValues else s.take spec attached

/-- Takes a cluster of short options; the first that takes a value takes what is left of it. -/
def takeShort (specs : List OptionSpec) (s : OptionState) : List Char → Except OptionError OptionState
  | [] => .ok s
  | c :: rest =>
    match specs.find? fun spec => spec.letter == some c with
    | none => .error .unknownArgument
    | some spec =>
      if spec.kind.takesValue then
        match rest with
        | [] => s.take spec none
        | '=' :: value => s.take spec (some (String.ofList value))
        | value => s.take spec (some (String.ofList value))
      else
        match s.take spec none with
        | .error e => .error e
        | .ok s => takeShort specs s rest

/-- Takes an argument that is no option: the value of the option that waits. -/
def takeValue (s : OptionState) (argument : String) : Except OptionError OptionState :=
  match s.waiting with
  | some (spec, []) => .ok { s with waiting := some (spec, [argument]) }
  | _ => .error .unknownArgument

/-- Takes arguments one after another; after `--` there may be none. -/
def takeAll (specs : List OptionSpec) (s : OptionState) : List String → Except OptionError OptionState
  | [] => s.resolve
  | argument :: rest =>
    match argument.toList with
    | ['-', '-'] => if rest.isEmpty then s.resolve else .error .unknownArgument
    | '-' :: '-' :: body =>
      match s.takeLong specs body with
      | .error e => .error e
      | .ok s => takeAll specs s rest
    | '-' :: c :: body =>
      match s.takeShort specs (c :: body) with
      | .error e => .error e
      | .ok s => takeAll specs s rest
    | _ =>
      match s.takeValue argument with
      | .error e => .error e
      | .ok s => takeAll specs s rest

end OptionState

structure GivenOptions where
  given : List (String × String)
  deriving Repr

namespace GivenOptions

/-- The options that every command line has. -/
def standard : List OptionSpec :=
  [⟨"help", some 'h', .help⟩, ⟨"version", some 'V', .version⟩]

def read (specs : List OptionSpec) (arguments : List String) : Except OptionError GivenOptions :=
  (OptionState.takeAll (specs ++ standard) {} arguments).map fun s => ⟨s.given⟩

def value? (o : GivenOptions) (name : String) : Option String :=
  o.given.lookup name

def port? (o : GivenOptions) (name : String) : Option UInt16 :=
  (o.value? name).bind readPort?

def has (o : GivenOptions) (name : String) : Bool :=
  (o.value? name).isSome

end GivenOptions

end Switchboard
