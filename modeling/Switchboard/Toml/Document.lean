import Switchboard.Toml.Number
import Switchboard.Toml.Table

/-!
TOML documents: lines with a header or a key and its value. A document is read to the object of its
tables, or not at all.
-/

namespace Switchboard.Toml

/-- Reads the items of a list up to its bracket; `before` holds those read, in reverse. -/
def listTail (item : Piece Json.Value) : Nat → List Json.Value → Piece Json.Value
  | 0, _, _ => none
  | fuel + 1, before, chars =>
    match skipLines? (chars.length + 1) chars with
    | none => none
    | some (']' :: rest) => some (.list before.reverse, rest)
    | some place =>
      match item place with
      | none => none
      | some (v, rest) =>
        match skipLines? (rest.length + 1) rest with
        | some (',' :: rest) => listTail item fuel (v :: before) rest
        | some (']' :: rest) => some (.list (v :: before).reverse, rest)
        | _ => none

/-- Reads a key, its equals sign and its value. -/
def member (item : Piece Json.Value) : Piece (List String × Json.Value) := fun chars => do
  let (parts, rest) ← key chars
  let (_, rest) ← Piece.char '=' rest
  let (v, rest) ← item (skipBlanks rest)
  return ((parts, v), rest)

/-- Reads the members of a table on one line up to its brace. -/
def inlineTail (item : Piece Json.Value) : Nat → Members → Piece Json.Value
  | 0, _, _ => none
  | fuel + 1, members, chars =>
    match member item chars with
    | none => none
    | some ((parts, v), rest) =>
      let (path, last) := Members.splitKey parts
      match members.define path last v with
      | none => none
      | some members =>
        match skipBlanks rest with
        | ',' :: rest => inlineTail item fuel members rest
        | '\x7d' :: rest => some ((Entry.table false false members).toValue, rest)
        | _ => none

/-- Reads a table on one line after its brace. -/
def inlineTable (item : Piece Json.Value) : Piece Json.Value := fun chars =>
  match skipBlanks chars with
  | '\x7d' :: rest => some (.object [], rest)
  | _ => inlineTail item (chars.length + 1) [] chars

/-- Reads a value that is no list and no table. -/
def scalar : Piece Json.Value := fun chars =>
  match chars with
  | '"' :: _ => (string chars).map fun (s, rest) => (.text s, rest)
  | '\'' :: _ => (string chars).map fun (s, rest) => (.text s, rest)
  | 't' :: 'r' :: 'u' :: 'e' :: rest => some (.boolean true, rest)
  | 'f' :: 'a' :: 'l' :: 's' :: 'e' :: rest => some (.boolean false, rest)
  | _ => dateTime chars <|> number chars

/-- Reads a value that may open `depth` brackets inside each other. -/
def value : Nat → Piece Json.Value
  | 0, chars =>
    match chars with
    | '[' :: _ => none
    | '\x7b' :: _ => none
    | _ => scalar chars
  | depth + 1, chars =>
    match chars with
    | '[' :: rest => listTail (value depth) (rest.length + 1) [] rest
    | '\x7b' :: rest => inlineTable (value depth) rest
    | _ => scalar chars

/-- A document while it is read. -/
structure Draft where
  /-- The tables that are complete. -/
  root : Members := []
  /-- The table that lines are added to. -/
  current : Members := []
  /-- Where that table belongs. -/
  path : List String := []
  /-- Holds when it belongs into a list of tables. -/
  inList : Bool := false

namespace Draft

/-- Puts the table that was added to in its place. -/
def close (d : Draft) : Option Draft :=
  if d.path.isEmpty then some { root := d.current }
  else
    let (above, last) := Members.splitKey d.path
    let table : Entry := .table false false d.current
    let place (_ : Bool) (inner : Members) : Option (Members × Unit) :=
      match d.inList, inner.get? last with
      | true, some (.tables items) => some (inner.put last (.tables (items ++ [table])), ())
      | false, none => some (inner.put last table, ())
      | _, _ => none
    (Members.descend false place above false d.root).map fun (root, _) => { root }

/-- Opens a table of its own; one that came about on the way to another is taken up again. -/
def openTable (d : Draft) (path : List String) : Option Draft := do
  let d ← d.close
  let (above, last) := Members.splitKey path
  let take (_ : Bool) (inner : Members) : Option (Members × Members) :=
    match inner.get? last with
    | none => some (inner, [])
    | some (.table true false members) => some (inner.erase last, members)
    | some _ => none
  let (root, current) ← Members.descend false take above false d.root
  return { root, current, path, inList := false }

def openItem (d : Draft) (path : List String) : Option Draft := do
  let d ← d.close
  let (above, last) := Members.splitKey path
  let find (_ : Bool) (inner : Members) : Option (Members × Unit) :=
    match inner.get? last with
    | none => some (inner.put last (.tables []), ())
    | some (.tables _) => some (inner, ())
    | some _ => none
  let (root, _) ← Members.descend false find above false d.root
  return { root, current := [], path, inList := true }

def add (d : Draft) (parts : List String) (v : Json.Value) : Option Draft :=
  let (path, last) := Members.splitKey parts
  (d.current.define path last v).map fun current => { d with current }

end Draft

/-- Reads one line: a header or a key and its value. -/
def line (d : Draft) : Piece Draft := fun chars =>
  match chars with
  | '[' :: '[' :: rest => do
    let (path, rest) ← key rest
    let (_, rest) ← Piece.char ']' rest
    let (_, rest) ← Piece.char ']' rest
    let rest ← lineRest? rest
    let d ← d.openItem path
    return (d, rest)
  | '[' :: rest => do
    let (path, rest) ← key rest
    let (_, rest) ← Piece.char ']' rest
    let rest ← lineRest? rest
    let d ← d.openTable path
    return (d, rest)
  | _ => do
    let ((parts, v), rest) ← member (value greatestDepth) chars
    let rest ← lineRest? rest
    let d ← d.add parts v
    return (d, rest)

def lines : Nat → Draft → List Char → Option Draft
  | 0, _, _ => none
  | fuel + 1, d, chars =>
    match skipBlanks chars with
    | [] => some d
    | '#' :: rest => (lineRest? ('#' :: rest)).bind (lines fuel d)
    | rest =>
      match afterNewline? rest with
      | some rest => lines fuel d rest
      | none => (line d rest).bind fun (d, rest) => lines fuel d rest

def read (source : String) : Option Json.Value := do
  let chars :=
    match source.toList with
    | '\ufeff' :: rest => rest
    | chars => chars
  let d ← lines (chars.length + 1) {} chars
  let d ← d.close
  return (Entry.table false false d.root).toValue

end Switchboard.Toml
