import Switchboard.Json.Value
import Switchboard.Text.Quoted

/-!
Writing JSON, on one line or indented. Inside strings only the quote, the backslash and the characters
below the blank are escaped.
-/

namespace Switchboard.Json

def escapeChar (c : Char) : List Char :=
  match c with
  | '"' => ['\\', '"']
  | '\\' => ['\\', '\\']
  | '\x08' => ['\\', 'b']
  | '\t' => ['\\', 't']
  | '\n' => ['\\', 'n']
  | '\x0c' => ['\\', 'f']
  | '\r' => ['\\', 'r']
  | _ =>
    if c.toNat < 0x20 then
      ['\\', 'u', '0', '0', Nat.digitChar (c.toNat / 16), Nat.digitChar (c.toNat % 16)]
    else [c]

def stringChars (s : String) : List Char :=
  '"' :: (s.toList.flatMap escapeChar ++ ['"'])

def numberText : Number → String
  | .integer n => toString n
  | .double x => doubleText x

def booleanText (b : Bool) : String :=
  if b then "true" else "false"

namespace Value

mutual

/-- Writes a value on one line without blanks. -/
def chars : Value → List Char
  | null => "null".toList
  | boolean b => (booleanText b).toList
  | number n => (numberText n).toList
  | text s => stringChars s
  | list [] => ['[', ']']
  | list (item :: rest) => '[' :: (chars item ++ itemsChars rest)
  | object [] => ['\x7b', '\x7d']
  | object ((name, value) :: rest) =>
    '\x7b' :: (stringChars name ++ ':' :: (chars value ++ membersChars rest))

/-- Writes the items after the first and closes the list. -/
def itemsChars : List Value → List Char
  | [] => [']']
  | item :: rest => ',' :: (chars item ++ itemsChars rest)

/-- Writes the members after the first and closes the object. -/
def membersChars : List (String × Value) → List Char
  | [] => ['\x7d']
  | (name, value) :: rest => ',' :: (stringChars name ++ ':' :: (chars value ++ membersChars rest))

end

def compact (value : Value) : String :=
  String.ofList (chars value)

/-- Writes an object of plain members one to a line, indented by two blanks. -/
def indented (members : List (String × Value)) : String :=
  let line (member : String × Value) : String :=
    "  " ++ String.ofList (stringChars member.1) ++ ": " ++ compact member.2
  "\x7b\n" ++ String.intercalate ",\n" (members.map line) ++ "\n\x7d"

end Value

end Switchboard.Json
