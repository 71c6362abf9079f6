import Switchboard.Json.Printer

/-!
What can be wrong with a JSON text, and where. A fault names its cause and the number of bytes after
which it shows; the message counts lines from one and the bytes of the line from zero.
-/

namespace Switchboard.Json

inductive Found
  | null
  | boolean (b : Bool)
  | number (n : Number)
  | text (s : String)
  | list
  | object
  deriving DecidableEq, Repr

def Found.ofValue : Value → Found
  | .null => null
  | .boolean b => boolean b
  | .number n => number n
  | .text s => text s
  | .list _ => list
  | .object _ => object

def Found.describe : Found → String
  | null => "null"
  | boolean b => "boolean `" ++ booleanText b ++ "`"
  | number (.integer n) => "integer `" ++ toString n ++ "`"
  | number (.double x) => "floating point `" ++ doubleText x ++ "`"
  | text s => "string " ++ Text.quote s
  | list => "sequence"
  | object => "map"

/-- Why a text or a value is not what was asked for. -/
inductive Cause
  | unclosedList
  | unclosedObject
  | unclosedString
  | missingValue
  | expectedColon
  | expectedListEnd
  | expectedObjectEnd
  | misspeltLiteral
  | expectedValue
  | invalidEscape
  | invalidNumber
  | numberOutOfRange
  | controlCharacter
  | keyNotString
  | loneSurrogate
  | brokenSurrogatePair
  | trailingComma
  | trailingCharacters
  | nestedTooDeep
  | wrongType (found : Found) (expected : String)
  | wrongValue (found : Found) (expected : String)
  | wrongLength (length : Nat) (expected : String)
  | missingField (name : String)
  | duplicateField (name : String)
  | unknownVariant (name : String) (known : List String)
  deriving DecidableEq, Repr

def Cause.message : Cause → String
  | unclosedList => "EOF while parsing a list"
  | unclosedObject => "EOF while parsing an object"
  | unclosedString => "EOF while parsing a string"
  | missingValue => "EOF while parsing a value"
  | expectedColon => "expected `:`"
  | expectedListEnd => "expected `,` or `]`"
  | expectedObjectEnd => "expected `,` or `\x7d`"
  | misspeltLiteral => "expected ident"
  | expectedValue => "expected value"
  | invalidEscape => "invalid escape"
  | invalidNumber => "invalid number"
  | numberOutOfRange => "number out of range"
  | controlCharacter => "control character (\\u0000-\\u001F) found while parsing a string"
  | keyNotString => "key must be a string"
  | loneSurrogate => "lone leading surrogate in hex escape"
  | brokenSurrogatePair => "unexpected end of hex escape"
  | trailingComma => "trailing comma"
  | trailingCharacters => "trailing characters"
  | nestedTooDeep => "recursion limit exceeded"
  | wrongType found expected => "invalid type: " ++ found.describe ++ ", expected " ++ expected
  | wrongValue found expected => "invalid value: " ++ found.describe ++ ", expected " ++ expected
  | wrongLength length expected =>
    "invalid length " ++ toString length ++ ", expected " ++ expected
  | missingField name => "missing field `" ++ name ++ "`"
  | duplicateField name => "duplicate field `" ++ name ++ "`"
  | unknownVariant name known =>
    "unknown variant `" ++ name ++ "`, expected one of " ++
      String.intercalate ", " (known.map fun k => "`" ++ k ++ "`")

/-- A cause and the number of bytes after which it shows. -/
structure Fault where
  cause : Cause
  offset : Nat
  deriving DecidableEq, Repr

/-- The line, counted from one, and the byte in it that follow the first `offset` bytes of a text. -/
def lineAndColumn : List Char → Nat → Nat × Nat → Nat × Nat
  | [], offset, (line, column) => (line, column + offset)
  | c :: rest, offset, (line, column) =>
    if offset < c.utf8Size then (line, column + offset)
    else if c == '\n' then lineAndColumn rest (offset - 1) (line + 1, 0)
    else lineAndColumn rest (offset - c.utf8Size) (line, column + c.utf8Size)

def Fault.message (source : String) (fault : Fault) : String :=
  let (line, column) := lineAndColumn source.toList fault.offset (1, 0)
  fault.cause.message ++ " at line " ++ toString line ++ " column " ++ toString column

end Switchboard.Json
