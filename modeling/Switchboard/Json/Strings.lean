import Switchboard.Json.Cursor
import Switchboard.Text.Piece

/-!
Reading strings. A string that is wanted is decoded and its surrogate escapes have to pair up; a string
that is passed over is only checked for its form.
-/

namespace Switchboard.Json

/-- The number of bytes of a run of characters. -/
def byteLength (chars : List Char) : Nat :=
  chars.foldl (fun n c => n + c.utf8Size) 0

def hexNumber? (digits : List Char) : Option Nat :=
  digits.foldl (fun n? c => n?.bind fun n => (hexDigitValue? c).map fun d => 16 * n + d) (some 0)

namespace Cursor

def fourHexDigits (at' : Cursor) : Reading Nat :=
  let digits := at'.rest.take 4
  if byteLength digits < 4 then .error ⟨.unclosedString, at'.offset + byteLength at'.rest⟩
  else
    match hexNumber? digits with
    | none => .error ⟨.invalidEscape, at'.offset + 4⟩
    | some n => .ok (n, ⟨at'.rest.drop 4, at'.offset + 4⟩)

/-- Reads the character that a backslash requires inside a surrogate pair. -/
def pairMark (mark : Char) (at' : Cursor) : Except Fault Cursor :=
  match at'.rest with
  | [] => at'.fault .unclosedString
  | c :: _ =>
    if c == mark then .ok at'.advance else at'.faultAfterByte .brokenSurrogatePair

/-- Reads the character that a `u` escape stands for, from its digits on. -/
def unicodeEscape (at' : Cursor) : Reading Char :=
  match at'.fourHexDigits with
  | .error fault => .error fault
  | .ok (n, next) =>
    if 0xdc00 ≤ n ∧ n ≤ 0xdfff then next.fault .loneSurrogate
    else if n < 0xd800 ∨ 0xdbff < n then .ok (Char.ofNat n, next)
    else
      match pairMark '\\' next with
      | .error fault => .error fault
      | .ok next =>
        match pairMark 'u' next with
        | .error fault => .error fault
        | .ok next =>
          match next.fourHexDigits with
          | .error fault => .error fault
          | .ok (low, next) =>
            if low < 0xdc00 ∨ 0xdfff < low then next.fault .loneSurrogate
            else .ok (Char.ofNat (0x10000 + (n - 0xd800) * 0x400 + (low - 0xdc00)), next)

/-- The character that a letter after a backslash stands for. -/
def simpleEscape? (c : Char) : Option Char :=
  match c with
  | '"' => some '"'
  | '\\' => some '\\'
  | '/' => some '/'
  | 'b' => some '\x08'
  | 'f' => some '\x0c'
  | 'n' => some '\n'
  | 'r' => some '\r'
  | 't' => some '\t'
  | _ => none

def escape (at' : Cursor) : Reading Char :=
  match at'.rest with
  | [] => at'.fault .unclosedString
  | 'u' :: _ => at'.advance.unicodeEscape
  | c :: _ =>
    match simpleEscape? c with
    | some d => .ok (d, at'.advance)
    | none => at'.faultAfterByte .invalidEscape

/-- Reads the characters of a string up to its closing quote; `before` holds those read, in reverse. -/
def stringTail : Nat → List Char → Cursor → Reading String
  | 0, _, at' => at'.fault .unclosedString
  | fuel + 1, before, at' =>
    match at'.rest with
    | [] => at'.fault .unclosedString
    | '"' :: _ => .ok (String.ofList before.reverse, at'.advance)
    | '\\' :: _ =>
      match at'.advance.escape with
      | .error fault => .error fault
      | .ok (c, next) => stringTail fuel (c :: before) next
    | c :: _ =>
      if c.toNat < 0x20 then at'.faultAfterByte .controlCharacter
      else stringTail fuel (c :: before) at'.advance

def string (at' : Cursor) : Reading String :=
  stringTail (at'.rest.length + 1) [] at'.advance

def skipEscape (at' : Cursor) : Except Fault Cursor :=
  match at'.rest with
  | [] => at'.fault .unclosedString
  | 'u' :: _ => at'.advance.fourHexDigits.map Prod.snd
  | c :: _ =>
    if (simpleEscape? c).isSome then .ok at'.advance else at'.faultAfterByte .invalidEscape

/-- Passes over the characters of a string up to its closing quote. -/
def skipStringTail : Nat → Cursor → Except Fault Cursor
  | 0, at' => at'.fault .unclosedString
  | fuel + 1, at' =>
    match at'.rest with
    | [] => at'.fault .unclosedString
    | '"' :: _ => .ok at'.advance
    | '\\' :: _ =>
      match at'.advance.skipEscape with
      | .error fault => .error fault
      | .ok next => skipStringTail fuel next
    | c :: _ =>
      if c.toNat < 0x20 then at'.fault .controlCharacter else skipStringTail fuel at'.advance

def skipString (at' : Cursor) : Except Fault Cursor :=
  skipStringTail (at'.rest.length + 1) at'.advance

end Cursor

end Switchboard.Json
