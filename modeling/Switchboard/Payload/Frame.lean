import Switchboard.Payload.Codec

/-!
Cutting a stream of bytes into lines. The bytes of a line that has not ended are held up to a limit;
beyond it they are dropped, the drop is reported once, and the rest of that line is passed over.
-/

namespace Switchboard

def lineEnd : UInt8 := 10

/-- The byte that may stand before the end of a line and is not part of it. -/
def carriageReturn : UInt8 := 13

/-- Cuts bytes into the lines that end among them and what follows the last end. -/
def splitLines (bytes : List UInt8) : List (List UInt8) × List UInt8 :=
  bytes.foldr
    (fun byte (lines, tail) =>
      if byte == lineEnd then ([] :: lines, tail)
      else
        match lines with
        | [] => ([], byte :: tail)
        | line :: more => ((byte :: line) :: more, tail))
    ([], [])

/-- The lines with their ends, and then the tail, are the bytes that were cut. -/
theorem flatten_splitLines (bytes : List UInt8) :
    (splitLines bytes).1.flatMap (· ++ [lineEnd]) ++ (splitLines bytes).2 = bytes := by
  induction bytes with
  | nil => rfl
  | cons byte rest ih =>
    rw [splitLines, List.foldr_cons]
    generalize hs : splitLines rest = s at ih
    rw [splitLines] at hs
    rw [hs]
    obtain ⟨lines, tail⟩ := s
    by_cases hb : byte = lineEnd
    · subst hb
      simpa using ih
    · cases lines with
      | nil => simp_all
      | cons line more => simp_all

/-- The bytes after the first line end, if there is one. -/
def afterLineEnd? (bytes : List UInt8) : Option (List UInt8) :=
  match bytes.dropWhile (· != lineEnd) with
  | [] => none
  | _ :: rest => some rest

def dropCarriageReturn (line : List UInt8) : List UInt8 :=
  if line.getLast? == some carriageReturn then line.dropLast else line

/-- The text that bytes encode, if they are valid. -/
def textOfBytes? (bytes : List UInt8) : Option String :=
  String.fromUTF8? ⟨bytes.toArray⟩

/-- The message of a line; bytes that are no text are a ping. -/
def Payload.ofLine (line : List UInt8) : Payload :=
  match textOfBytes? (dropCarriageReturn line) with
  | some text => decode text
  | none => ping

/-- What has been received and not yet taken. -/
structure Framer where
  /-- The longest line that may be held unfinished. -/
  limit : Nat
  /-- The lines that have ended, without their ends. -/
  lines : List (List UInt8) := []
  /-- The bytes of the line that has not ended. -/
  tail : List UInt8 := []
  /-- Holds while the rest of a line that was too long is passed over. -/
  discarding : Bool := false
  deriving DecidableEq, Repr

namespace Framer

/-- The limit where none is given: 64 KiB. -/
def defaultLimit : Nat := 64 * 1024

/-- The number of bytes held. -/
def buffered (f : Framer) : Nat :=
  f.lines.foldl (fun n line => n + line.length + 1) f.tail.length

/-- Takes bytes of a line that is not passed over; gives the size of a tail that was too long. -/
def accept (f : Framer) (bytes : List UInt8) : Framer × Option Nat :=
  let (ended, rest) := splitLines bytes
  let (lines, tail) :=
    match ended with
    | [] => (f.lines, f.tail ++ rest)
    | line :: more => (f.lines ++ (f.tail ++ line) :: more, rest)
  if f.limit < tail.length then
    ({ f with lines, tail := [], discarding := true }, some tail.length)
  else ({ f with lines, tail, discarding := false }, none)

/-- Takes bytes; gives the size of an unfinished line that was dropped for its length. -/
def feed (f : Framer) (bytes : List UInt8) : Framer × Option Nat :=
  if f.discarding then
    match afterLineEnd? bytes with
    | none => (f, none)
    | some rest => f.accept rest
  else f.accept bytes

/-- Takes the message of the first line that has ended. -/
def next? (f : Framer) : Option (Payload × Framer) :=
  match f.lines with
  | [] => none
  | line :: lines => some (.ofLine line, { f with lines })

def drain (f : Framer) : List Payload × Framer :=
  (f.lines.map Payload.ofLine, { f with lines := [] })

end Framer

end Switchboard
