import Switchboard.Json.Decoder

/-!
Tagged choices: an object with one member that names the variant, or a list whose first item does. The
other members are read whole before the variant takes its fields from them.
-/

namespace Switchboard.Json

structure TaggedShape where
  /-- The choice as messages name it. -/
  name : String
  /-- The member that names the variant. -/
  tag : String
  variants : List String

namespace TaggedShape

def variant (shape : TaggedShape) (at' : Cursor) : Reading String :=
  let next := at'.token
  match next.rest with
  | '"' :: _ =>
    match next.string with
    | .error fault => .error fault
    | .ok (name, after) =>
      if shape.variants.contains name then .ok (name, after)
      else after.fault (.unknownVariant name shape.variants)
  | _ => next.wrongType "variant identifier"

/-- Reads the members up to the closing brace, which is left; `before` holds the others, in reverse. -/
def membersFrom (shape : TaggedShape) :
    Nat → Bool → Option String → List (String × Value) → Cursor →
      Reading (Except Cause (String × Value))
  | 0, _, _, _, at' => at'.fault .unclosedObject
  | fuel + 1, isFirst, tag, before, at' =>
    match at'.nextName isFirst with
    | .error fault => .error fault
    | .ok none =>
      match tag with
      | some variant => .ok (.ok (variant, .object before.reverse), at'.token)
      | none => .ok (.error (.missingField shape.tag), at'.token)
    | .ok (some place) =>
      match place.string with
      | .error fault => .error fault
      | .ok (name, next) =>
        if name == shape.tag then
          if tag.isSome then .ok (.error (.duplicateField name), next)
          else
            match next.colon with
            | .error fault => .error fault
            | .ok next =>
              match shape.variant next with
              | .error fault => .error fault
              | .ok (variant, next) => membersFrom shape fuel false (some variant) before next
        else
          match next.colon with
          | .error fault => .error fault
          | .ok next =>
            match next.value (greatestDepth - 1) with
            | .error fault => .error fault
            | .ok (value, next) => membersFrom shape fuel false tag ((name, value) :: before) next

/-- Reads the items after the tag up to the closing bracket, which is left. -/
def itemsFrom : Nat → List Value → Cursor → Reading (List Value)
  | 0, _, at' => at'.fault .unclosedList
  | fuel + 1, before, at' =>
    match at'.nextItem false with
    | .error fault => .error fault
    | .ok none => .ok (before.reverse, at'.token)
    | .ok (some place) =>
      match place.value (greatestDepth - 1) with
      | .error fault => .error fault
      | .ok (value, next) => itemsFrom fuel (value :: before) next

/-- Reads the variant and what its fields are to be taken from. -/
def read (shape : TaggedShape) (at' : Cursor) : Reading (String × Value) :=
  let next := at'.token
  match next.opening? with
  | some .object =>
    match shape.membersFrom (next.rest.length + 1) true none [] next.advance with
    | .error fault => .error fault
    | .ok (.error cause, place) => place.leaveObject.fault cause
    | .ok (.ok choice, place) => place.closeObject.map fun after => (choice, after)
  | some .list =>
    match next.advance.nextItem true with
    | .error fault => .error fault
    | .ok none => next.advance.leaveList.fault (.missingField shape.tag)
    | .ok (some place) =>
      match shape.variant place with
      | .error fault => .error fault
      | .ok (variant, after) =>
        match itemsFrom (next.rest.length + 1) [] after with
        | .error fault => .error fault
        | .ok (items, place) => place.closeList.map fun after => ((variant, .list items), after)
  | none => next.wrongType ("internally tagged enum " ++ shape.name)

end TaggedShape

end Switchboard.Json
