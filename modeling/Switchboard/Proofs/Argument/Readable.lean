import Switchboard.Proofs.Argument.Conveyed

/-!
Which data is read. An object settles the negotiation, whatever its members are, with one exception: if it
has a member for the entries and is no schema, it is reported like data that is no object at all.
-/

namespace Switchboard

open Json Json.Value

/-- Command arguments that the values of their keys decide. -/
class KeyedArguments (α : Type) [CommandArguments α] where
  /-- Holds of the arguments that values amount to. -/
  FilledBy : (String → Option String) → α → Prop
  ofValues_eq_ok_iff : ∀ (values : ArgumentValues) (a : α),
    CommandArguments.ofValues values = .ok a ↔ FilledBy values.raw a

instance : KeyedArguments SwitchArguments :=
  ⟨SwitchArguments.FilledBy, fun _ _ => SwitchArguments.ofValues_eq_ok_iff⟩

instance : KeyedArguments AddSwitchArguments :=
  ⟨AddSwitchArguments.FilledBy, fun _ _ => AddSwitchArguments.ofValues_eq_ok_iff⟩

instance : KeyedArguments DeviceArguments :=
  ⟨DeviceArguments.FilledBy, fun _ _ => DeviceArguments.ofValues_eq_ok_iff⟩

instance : KeyedArguments LevelArguments :=
  ⟨LevelArguments.FilledBy, fun _ _ => LevelArguments.ofValues_eq_ok_iff⟩

instance : KeyedArguments JoinArguments :=
  ⟨JoinArguments.FilledBy, fun _ _ => JoinArguments.ofValues_eq_ok_iff⟩

/-- Holds of an outcome that reports the data of a command as unreadable. -/
def Unread {α : Type} (schema : ArgumentSchema) (outcome : Negotiation α) : Prop :=
  ∃ reason, outcome = .malformed ("Could not read arguments for " ++ schema.command ++ ": " ++ reason)

section conveyed

variable {α : Type} [CommandArguments α] {text : String} {v : String → Option String}

theorem ne_empty_of_readValue {value : Value} (read : readValue text = .ok value) : text ≠ "" := by
  rintro rfl
  cases read

theorem negotiate_conveyed [KeyedArguments α] (conveys : Conveys (Text.trim text) v)
    (schema : ArgumentSchema) :
    Settles (KeyedArguments.FilledBy v) schema (Negotiation.negotiate (some text) schema : Negotiation α) := by
  have solid : Text.trim text ≠ "" := by
    cases conveys with
    | flat read _ => exact ne_empty_of_readValue read
    | echoed read _ => exact ne_empty_of_readValue read
  obtain ⟨values, parsed, rfl⟩ := ArgumentValues.exists_parse.mpr conveys
  rw [negotiate_solid solid]
  exact ofData_settles schema parsed (KeyedArguments.ofValues_eq_ok_iff values)

theorem negotiate_unread (solid : Text.trim text ≠ "") (none : ∀ v, ¬Conveys (Text.trim text) v)
    (schema : ArgumentSchema) :
    Unread schema (Negotiation.negotiate (some text) schema : Negotiation α) := by
  rw [negotiate_solid solid, Negotiation.ofData]
  cases parsed : ArgumentValues.parse (Text.trim text) with
  | error failure => exact ⟨failure.message, rfl⟩
  | ok values => exact absurd (ArgumentValues.exists_parse.mp ⟨values, parsed, rfl⟩) (none _)

end conveyed

/-- How the data of a command decides its negotiation. -/
structure ObjectsDecide (α : Type) [CommandArguments α] [KeyedArguments α] : Prop where
  /-- Blank data is none, and asks. -/
  blank : ∀ (data : Option String) (schema : ArgumentSchema),
    (∀ text, data = some text → Text.trim text = "") →
      (Negotiation.negotiate data schema : Negotiation α) = .challenge schema
  /-- An object without a member for the entries settles it by its members, of whatever kind they are. -/
  flat : ∀ (text : String) (members : List (String × Value)) (schema : ArgumentSchema),
    readValue (Text.trim text) = .ok (.object members) → lastOf "entries" members = none →
      Settles (KeyedArguments.FilledBy (flatValue members)) schema
        (Negotiation.negotiate (some text) schema : Negotiation α)
  /-- A schema settles it by its entries. -/
  echoed : ∀ (text : String) (members : List (String × Value)) (entries : List ArgumentEntry)
    (schema : ArgumentSchema),
    readValue (Text.trim text) = .ok (.object members) → Echoes members entries →
      Settles (KeyedArguments.FilledBy (lookupEntry · entries)) schema
        (Negotiation.negotiate (some text) schema : Negotiation α)
  /-- Any other object is reported. -/
  damaged : ∀ (text : String) (members : List (String × Value)) (schema : ArgumentSchema),
    readValue (Text.trim text) = .ok (.object members) → lastOf "entries" members ≠ none →
      (∀ entries, ¬Echoes members entries) →
        Unread schema (Negotiation.negotiate (some text) schema : Negotiation α)
  /-- So is what is no object. -/
  unreadable : ∀ (text : String) (schema : ArgumentSchema), Text.trim text ≠ "" →
    (∀ members, readValue (Text.trim text) ≠ .ok (.object members)) →
      Unread schema (Negotiation.negotiate (some text) schema : Negotiation α)

theorem objects_decide (α : Type) [CommandArguments α] [KeyedArguments α] : ObjectsDecide α where
  blank data schema blank := by
    have none : (data.map Text.trim).filter (· != "") = none := by
      cases data with
      | none => rfl
      | some text =>
          rw [Option.map_some, blank text rfl]
          rfl
    rw [Negotiation.negotiate, none]
  flat text members schema read none := negotiate_conveyed (.flat read none) schema
  echoed text members entries schema read echoes := negotiate_conveyed (.echoed read echoes) schema
  damaged text members schema read given noEcho := by
    refine negotiate_unread (ne_empty_of_readValue read) ?_ schema
    intro v conveys
    cases conveys with
    | flat read' none =>
        cases read.symm.trans read'
        exact given none
    | echoed read' echoes =>
        cases read.symm.trans read'
        exact noEcho _ echoes
  unreadable text schema solid noObject := by
    refine negotiate_unread solid ?_ schema
    intro v conveys
    cases conveys with
    | flat read _ => exact noObject _ read
    | echoed read _ => exact noObject _ read

/-- The text of an object, but its entries are null: it is reported, where the missing switch would be
asked for. -/
theorem damaged_echo_unread :
    readValue "\x7b\"entries\":null\x7d" = .ok (.object [("entries", .null)]) ∧
      (Negotiation.negotiate (some "\x7b\"entries\":null\x7d")
          (CommandArguments.schema SwitchArguments) : Negotiation SwitchArguments) =
        .malformed ("Could not read arguments for SwitchOn: " ++
          "Serialization error: invalid type: null, expected a sequence") := by
  have text : (Value.object [("entries", .null)]).compact = "\x7b\"entries\":null\x7d" := by
    decide
  have read : readValue (Value.object [("entries", .null)]).compact = .ok (.object [("entries", .null)]) := by
    apply readValue_compact
    apply Nested.object
    intro member which
    obtain rfl := List.mem_singleton.mp which
    exact .null
  have trimmed := trim_compact_object [("entries", .null)]
  rw [text] at read trimmed
  refine ⟨read, ?_⟩
  rw [negotiate_solid (by rw [trimmed]; decide), trimmed, Negotiation.ofData, ArgumentValues.parse, read]
  rfl

end Switchboard
