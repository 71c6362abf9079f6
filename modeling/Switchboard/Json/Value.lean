import Switchboard.Decimal.Shortest

/-!
JSON values. An object is kept as it was written, member by member; `Value.canonical` is the value it
stands for when the last member of a name counts and members are ordered by name.
-/

namespace Switchboard.Json

/-- A number: an integer within 64 bits, or else a double. -/
inductive Number
  | integer (n : Int)
  | double (x : Binary64)
  deriving DecidableEq, Repr

inductive Value
  | null
  | boolean (b : Bool)
  | number (n : Number)
  | text (s : String)
  | list (items : List Value)
  | object (members : List (String × Value))
  deriving Repr, Inhabited

def doubleStyle : Binary64.TextStyle :=
  ⟨some (-5, 15), true⟩

def doubleText (x : Binary64) : String :=
  x.text doubleStyle

namespace Value

/-- Puts a member among members ordered by name, replacing one of the same name. -/
def insertMember (name : String) (value : Value) : List (String × Value) → List (String × Value)
  | [] => [(name, value)]
  | member :: rest =>
    if name == member.1 then (name, value) :: rest
    else if name < member.1 then (name, value) :: member :: rest
    else member :: insertMember name value rest

mutual

/-- Orders the members of every object by name and keeps the last of each name. -/
def canonical : Value → Value
  | list items => list (canonicalItems items)
  | object members => object (canonicalMembers members [])
  | null => null
  | boolean b => boolean b
  | number n => number n
  | text s => text s

def canonicalItems : List Value → List Value
  | [] => []
  | item :: rest => canonical item :: canonicalItems rest

def canonicalMembers : List (String × Value) → List (String × Value) → List (String × Value)
  | [], ordered => ordered
  | (name, value) :: rest, ordered => canonicalMembers rest (insertMember name (canonical value) ordered)

end

end Value

end Switchboard.Json
