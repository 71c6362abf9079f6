import Switchboard.Text.Piece

/-!
The small parts of TOML: blanks, line ends, comments, strings and keys. A multi-line string may hold one
or two of its quotes anywhere and before its end.
-/

namespace Switchboard.Toml

def isBlank (c : Char) : Bool :=
  c == ' ' || c == '\t'

def skipBlanks (chars : List Char) : List Char :=
  chars.dropWhile isBlank

/-- Holds of the characters that are no controls, the tab apart. -/
def isPlain (c : Char) : Bool :=
  c == '\t' || (0x20 ≤ c.toNat && c.toNat != 0x7f)

def afterNewline? : List Char → Option (List Char)
  | '\n' :: rest => some rest
  | '\r' :: '\n' :: rest => some rest
  | _ => none

/-- Drops a comment, if there is one. -/
def skipComment (chars : List Char) : List Char :=
  match chars with
  | '#' :: rest => rest.dropWhile isPlain
  | _ => chars

/-- What follows the rest of a line that holds nothing but a comment. -/
def lineRest? (chars : List Char) : Option (List Char) :=
  match skipComment (skipBlanks chars) with
  | [] => some []
  | rest => afterNewline? rest

/-- What follows blanks, line ends and comments; none when a comment does not end. -/
def skipLines? : Nat → List Char → Option (List Char)
  | 0, _ => none
  | fuel + 1, chars =>
    match skipBlanks chars with
    | '#' :: rest => (afterNewline? (rest.dropWhile isPlain)).bind (skipLines? fuel)
    | '\n' :: rest => skipLines? fuel rest
    | '\r' :: rest => (afterNewline? ('\r' :: rest)).bind (skipLines? fuel)
    | rest => some rest

def skipBlankLines : Nat → List Char → List Char
  | 0, chars => chars
  | fuel + 1, chars =>
    match afterNewline? (skipBlanks chars) with
    | some rest => skipBlankLines fuel rest
    | none => skipBlanks chars

/-- Reads the character that a number of hexadecimal digits stands for. -/
def hexEscape (count : Nat) : Piece Char := fun chars =>
  let digits := chars.take count
  if digits.length == count && digits.all fun c => (hexDigitValue? c).isSome then
    let n := numberToBase 16 digits
    if n.isValidChar then some (Char.ofNat n, chars.drop count) else none
  else none

def escape : Piece Char
  | 'b' :: rest => some ('\x08', rest)
  | 'f' :: rest => some ('\x0c', rest)
  | 'n' :: rest => some ('\n', rest)
  | 'r' :: rest => some ('\r', rest)
  | 't' :: rest => some ('\t', rest)
  | '\\' :: rest => some ('\\', rest)
  | '"' :: rest => some ('"', rest)
  | 'u' :: rest => hexEscape 4 rest
  | 'U' :: rest => hexEscape 8 rest
  | _ => none

/-- Reads a string up to its closing quote; `before` holds what was read, in reverse. -/
def basicTail : Nat → List Char → Piece String
  | 0, _, _ => none
  | _ + 1, _, [] => none
  | _ + 1, before, '"' :: rest => some (String.ofList before.reverse, rest)
  | fuel + 1, before, '\\' :: rest => do
    let (c, rest) ← escape rest
    basicTail fuel (c :: before) rest
  | fuel + 1, before, c :: rest => if isPlain c then basicTail fuel (c :: before) rest else none

/-- Reads a string without escapes up to its closing quote. -/
def literalTail (chars : List Char) : Option (String × List Char) :=
  let body := chars.takeWhile fun c => isPlain c && c != '\''
  match chars.drop body.length with
  | '\'' :: rest => some (String.ofList body, rest)
  | _ => none

/-- What follows a backslash at the end of a line and the blanks and lines after it. -/
def afterLineBreak? (chars : List Char) : Option (List Char) :=
  (afterNewline? (skipBlanks chars)).map fun rest => skipBlankLines (rest.length + 1) rest

/-- Reads a multi-line string up to its closing quotes; backslashes count only where escapes do. -/
def multilineTail (mark : Char) (escapes : Bool) : Nat → List Char → Piece String
  | 0, _, _ => none
  | _ + 1, _, [] => none
  | fuel + 1, before, c :: rest =>
    if c == mark then
      let quotes := ((c :: rest).takeWhile (· == mark)).length
      if quotes < 3 then
        multilineTail mark escapes fuel (List.replicate quotes mark ++ before) ((c :: rest).drop quotes)
      else
        let kept := min (quotes - 3) 2
        some (String.ofList (List.replicate kept mark ++ before).reverse, (c :: rest).drop (kept + 3))
    else if c == '\\' && escapes then
      match afterLineBreak? rest with
      | some rest => multilineTail mark escapes fuel before rest
      | none => do
        let (c, rest) ← escape rest
        multilineTail mark escapes fuel (c :: before) rest
    else if isPlain c then multilineTail mark escapes fuel (c :: before) rest
    else
      match afterNewline? (c :: rest) with
      | some rest => multilineTail mark escapes fuel ('\n' :: before) rest
      | none => none

def skipNewline (chars : List Char) : List Char :=
  (afterNewline? chars).getD chars

def string : Piece String
  | '"' :: '"' :: '"' :: rest => multilineTail '"' true (rest.length + 1) [] (skipNewline rest)
  | '"' :: rest => basicTail (rest.length + 1) [] rest
  | '\'' :: '\'' :: '\'' :: rest => multilineTail '\'' false (rest.length + 1) [] (skipNewline rest)
  | '\'' :: rest => literalTail rest
  | _ => none

/-- Holds of the characters of a key without quotes. -/
def isKeyChar (c : Char) : Bool :=
  c.isAlphanum || c == '-' || c == '_'

def keyPart : Piece String
  | '"' :: rest => basicTail (rest.length + 1) [] rest
  | '\'' :: rest => literalTail rest
  | chars =>
    let part := chars.takeWhile isKeyChar
    if part.isEmpty then none else some (String.ofList part, chars.drop part.length)

/-- Reads the parts of a key, with points between them. -/
def keyParts : Nat → Piece (List String)
  | 0, _ => none
  | fuel + 1, chars => do
    let (part, rest) ← keyPart (skipBlanks chars)
    match skipBlanks rest with
    | '.' :: rest => do
      let (parts, rest) ← keyParts fuel rest
      return (part :: parts, rest)
    | rest => return ([part], rest)

/-- The greatest number of brackets that may be open at once, and of the parts of a key. -/
def greatestDepth : Nat := 79

def key : Piece (List String) := fun chars =>
  keyParts greatestDepth chars

end Switchboard.Toml
