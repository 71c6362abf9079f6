import Switchboard.Decimal.Integer
import Switchboard.Text.Quoted
import Switchboard.Text.Piece

/-!
Internet addresses and their texts. Parts of a four-part address have no leading zeros; in an eight-part
address the longest run of zero groups, if it has two or more, is written as `::`.
-/

namespace Switchboard

inductive IpAddress
  | v4 (a b c d : UInt8)
  | v6 (groups : Vector UInt16 8)
  deriving DecidableEq, Repr

/-- An address with a port; the scope matters only for eight-part addresses. -/
structure SocketAddress where
  ip : IpAddress
  scope : UInt32 := 0
  port : UInt16
  deriving DecidableEq, Repr

namespace IpAddress

/-- Reads a decimal part below 256 of at most three digits. -/
def decimalPart : Piece UInt8 := fun chars =>
  let digits := chars.takeWhile Char.isDigit
  let n := Decimal.ofDigits digits
  if digits.isEmpty || 3 < digits.length || (digits.head? == some '0' && 1 < digits.length) || 255 < n
  then none
  else some (.ofNat n, chars.drop digits.length)

/-- Reads a decimal number below `2 ^ bits`. -/
def decimal (bits : Nat) : Piece Nat := fun chars =>
  let digits := chars.takeWhile Char.isDigit
  let n := Decimal.ofDigits digits
  if digits.isEmpty || Nat.pow 2 bits ≤ n then none else some (n, chars.drop digits.length)

def fourParts : Piece (UInt8 × UInt8 × UInt8 × UInt8) := fun chars => do
  let (a, chars) ← decimalPart chars
  let (_, chars) ← Piece.char '.' chars
  let (b, chars) ← decimalPart chars
  let (_, chars) ← Piece.char '.' chars
  let (c, chars) ← decimalPart chars
  let (_, chars) ← Piece.char '.' chars
  let (d, chars) ← decimalPart chars
  return ((a, b, c, d), chars)

def group : Piece UInt16 := fun chars =>
  let digits := chars.takeWhile fun c => (hexDigitValue? c).isSome
  if digits.isEmpty || 4 < digits.length then none
  else some (.ofNat (numberToBase 16 digits), chars.drop digits.length)

/-- Reads a piece after a colon, unless it is the first. -/
def separated {α : Type} (isFirst : Bool) (piece : Piece α) : Piece α := fun chars =>
  if isFirst then piece chars
  else do
    let (_, chars) ← Piece.char ':' chars
    piece chars

def pairOfParts (parts : UInt8 × UInt8 × UInt8 × UInt8) : List UInt16 :=
  let (a, b, c, d) := parts
  [a.toUInt16 * 256 + b.toUInt16, c.toUInt16 * 256 + d.toUInt16]

/-- Reads up to `room` groups, the last two of which may be written as a four-part address; tells
whether they were. -/
def groups : Nat → Bool → List Char → List UInt16 × Bool × List Char
  | 0, _, chars => ([], false, chars)
  | room + 1, isFirst, chars =>
    match if room == 0 then none else separated isFirst fourParts chars with
    | some (parts, rest) => (pairOfParts parts, true, rest)
    | none =>
      match separated isFirst group chars with
      | none => ([], false, chars)
      | some (g, rest) =>
        let (more, inParts, rest) := groups room false rest
        (g :: more, inParts, rest)

def ofGroups? (gs : List UInt16) : Option IpAddress :=
  if h : gs.toArray.size = 8 then some (.v6 ⟨gs.toArray, h⟩) else none

def eightParts : Piece IpAddress := fun chars =>
  let (front, inParts, rest) := groups 8 true chars
  if front.length == 8 then (ofGroups? front).map fun ip => (ip, rest)
  else if inParts then none
  else do
    let (_, rest) ← Piece.char ':' rest
    let (_, rest) ← Piece.char ':' rest
    let (back, _, rest) := groups (7 - front.length) true rest
    let zeros := List.replicate (8 - front.length - back.length) 0
    let ip ← ofGroups? (front ++ zeros ++ back)
    return (ip, rest)

/-- Holds of the addresses that stand for every address of a machine. -/
def isUnspecified : IpAddress → Bool
  | v4 a b c d => a == 0 && b == 0 && c == 0 && d == 0
  | v6 groups => groups.toList.all (· == 0)

def partsText (parts : List UInt8) : String :=
  String.intercalate "." (parts.map toString)

def groupsText (gs : List UInt16) : String :=
  String.intercalate ":" (gs.map fun g => String.ofList (Text.hexDigits g.toNat))

/-- The beginning and length of the first longest run of zero groups; `at'` counts the groups before. -/
def longestZeros (at' : Nat) (best : Nat × Nat) : List UInt16 → Nat × Nat
  | [] => best
  | g :: rest =>
    let run := ((g :: rest).takeWhile (· == 0)).length
    longestZeros (at' + 1) (if best.2 < run then (at', run) else best) rest

def text : IpAddress → String
  | v4 a b c d => partsText [a, b, c, d]
  | v6 groups =>
    let gs := groups.toList
    match gs with
    | [0, 0, 0, 0, 0, 0xffff, high, low] =>
      "::ffff:" ++ partsText [(high / 256).toUInt8, (high % 256).toUInt8,
        (low / 256).toUInt8, (low % 256).toUInt8]
    | _ =>
      let (start, length) := longestZeros 0 (0, 0) gs
      if 1 < length then
        groupsText (gs.take start) ++ "::" ++ groupsText (gs.drop (start + length))
      else groupsText gs

end IpAddress

namespace SocketAddress

open IpAddress

/-- Reads the port after an address. -/
def portPart : Piece UInt16 := fun chars => do
  let (_, chars) ← Piece.char ':' chars
  let (n, chars) ← decimal 16 chars
  return (.ofNat n, chars)

def readV4 : Piece SocketAddress := fun chars => do
  let ((a, b, c, d), chars) ← fourParts chars
  let (port, chars) ← portPart chars
  return ({ ip := .v4 a b c d, port }, chars)

/-- Reads a scope, if there is one. -/
def scopePart (chars : List Char) : UInt32 × List Char :=
  match chars with
  | '%' :: rest =>
    match decimal 32 rest with
    | some (n, rest) => (.ofNat n, rest)
    | none => (0, chars)
  | _ => (0, chars)

def readV6 : Piece SocketAddress := fun chars => do
  let (_, chars) ← Piece.char '[' chars
  let (ip, chars) ← eightParts chars
  let (scope, chars) := scopePart chars
  let (_, chars) ← Piece.char ']' chars
  let (port, chars) ← portPart chars
  return ({ ip, scope, port }, chars)

def ofText? (text : String) : Option SocketAddress :=
  match readV4 text.toList <|> readV6 text.toList with
  | some (address, []) => some address
  | _ => none

def text (s : SocketAddress) : String :=
  match s.ip with
  | .v4 .. => s.ip.text ++ ":" ++ toString s.port
  | .v6 _ =>
    let scope := if s.scope == 0 then "" else "%" ++ toString s.scope
    "[" ++ s.ip.text ++ scope ++ "]:" ++ toString s.port

end SocketAddress

end Switchboard
