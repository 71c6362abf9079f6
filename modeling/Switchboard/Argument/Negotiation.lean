import Switchboard.Argument.Values

/-!
Negotiating arguments. A command runs only on complete arguments of the right types; without them it is
answered by its schema, and data that cannot be read at all is reported.
-/

namespace Switchboard

class CommandArguments (α : Type) where
  /-- The schema that asks for them. -/
  schema : ArgumentSchema
  /-- Takes them from filled values, or says which is missing or ill-typed. -/
  ofValues : ArgumentValues → Except String α

inductive Negotiation (α : Type)
  /-- The arguments are complete. -/
  | ready (arguments : α)
  /-- There are no usable arguments; the schema asks for them. -/
  | challenge (schema : ArgumentSchema)
  /-- The data could not be read. -/
  | malformed (reason : String)
  deriving DecidableEq, Repr

namespace Negotiation

variable {α : Type} [CommandArguments α]

/-- Looks for the arguments in readable data, asking with a schema otherwise. -/
def ofData (data : String) (schema : ArgumentSchema) : Negotiation α :=
  match ArgumentValues.parse data with
  | .error failure =>
    .malformed ("Could not read arguments for " ++ schema.command ++ ": " ++ failure.message)
  | .ok values =>
    match CommandArguments.ofValues values with
    | .ok arguments => .ready arguments
    | .error _ => .challenge schema

/-- Looks for the arguments in the data of an action; blank data is none. -/
def negotiate (data : Option String) (schema : ArgumentSchema) : Negotiation α :=
  match (data.map Text.trim).filter (· != "") with
  | none => .challenge schema
  | some data => ofData data schema

/-- The command that waits for arguments after this outcome. -/
def pending? (outcome : Negotiation α) (schema : ArgumentSchema) : Option String :=
  match outcome with
  | .challenge _ => some schema.command
  | _ => none

end Negotiation

structure Negotiator where
  pending : Option String := none
  deriving DecidableEq, Repr, Inhabited

def Negotiator.negotiate {α : Type} [CommandArguments α] (_ : Negotiator) (data : Option String)
    (schema : ArgumentSchema) : Negotiation α × Negotiator :=
  let outcome := Negotiation.negotiate data schema
  (outcome, ⟨outcome.pending? schema⟩)

end Switchboard
