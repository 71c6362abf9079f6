import Switchboard.Json.Value

/-!
Tables while they are built. A table that came about only on the way to another may still be opened by
a header, or by the kind of key that made it, but nothing may be defined twice.
-/

namespace Switchboard.Toml

inductive Entry
  | value (v : Json.Value)
  /-- A table; `implicit` until it is opened itself, `dotted` when a key with points made it. -/
  | table (implicit dotted : Bool) (members : List (String × Entry))
  /-- A list of tables, each opened by a header of its own. -/
  | tables (items : List Entry)
  deriving Inhabited

abbrev Members := List (String × Entry)

namespace Entry

mutual

def toValue : Entry → Json.Value
  | value v => v
  | table _ _ members => .object (membersValue members)
  | tables items => .list (itemsValue items)

def membersValue : List (String × Entry) → List (String × Json.Value)
  | [] => []
  | (key, entry) :: rest => (key, toValue entry) :: membersValue rest

def itemsValue : List Entry → List Json.Value
  | [] => []
  | entry :: rest => toValue entry :: itemsValue rest

end

end Entry

namespace Members

def get? (members : Members) (key : String) : Option Entry :=
  members.lookup key

def erase (members : Members) (key : String) : Members :=
  members.filter fun member => member.1 != key

def put (members : Members) (key : String) (entry : Entry) : Members :=
  members.erase key ++ [(key, entry)]

/-- Goes down a path, creating tables where there are none, changes the table at its end and gives a
result. `byKey` says that a key with points leads the way, and the change learns whether one made the
table at the end. -/
def descend {α : Type} (byKey : Bool) (change : Bool → Members → Option (Members × α)) :
    List String → Bool → Members → Option (Members × α)
  | [], dotted, members => change dotted members
  | key :: path, _, members =>
    match members.get? key with
    | none => do
      let (inner, result) ← descend byKey change path byKey []
      return (members.put key (.table true byKey inner), result)
    | some (.value _) => none
    | some (.table implicit dotted inner) =>
      if byKey && !implicit then none
      else do
        let (inner, result) ← descend byKey change path dotted inner
        return (members.put key (.table implicit dotted inner), result)
    | some (.tables items) =>
      match items.getLast? with
      | some (.table implicit dotted inner) => do
        let (inner, result) ← descend byKey change path dotted inner
        return (members.put key (.tables (items.dropLast ++ [.table implicit dotted inner])), result)
      | _ => none

/-- Defines a key with the given path before it. -/
def define (members : Members) (path : List String) (key : String) (value : Json.Value) :
    Option Members :=
  let add (dotted : Bool) (inner : Members) : Option (Members × Unit) :=
    if dotted == path.isEmpty || (inner.get? key).isSome then none
    else some (inner ++ [(key, .value value)], ())
  (descend true add path false members).map Prod.fst

/-- Splits a key into its path and its last part. -/
def splitKey (parts : List String) : List String × String :=
  (parts.dropLast, parts.getLastD "")

end Members

end Switchboard.Toml
