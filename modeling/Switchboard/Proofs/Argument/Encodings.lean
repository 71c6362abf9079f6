import Switchboard.Proofs.Argument.Readable
import Switchboard.Proofs.Json.Numbers

/-!
The ways to write arguments agree. Pairs of keys and values can be written as an object with these members,
in any order and with numbers instead of numerals, or as a schema with these entries; either way a command
gets the arguments that it gets from the pairs themselves.
-/

namespace Switchboard

open Json Json.Value

/-- A JSON value that stands for a text: the text, or the integer within 64 bits of which it is the numeral. -/
inductive Stands : String → Value → Prop
  | text (s : String) : Stands s (.text s)
  | number {n : Int} :
    -(Nat.pow 2 63 : Int) ≤ n → n < (Nat.pow 2 64 : Int) → Stands (toString n) (.number (.integer n))

/-- Members that write pairs of keys and values, in any order. -/
def Flat (pairs : List (String × String)) (members : List (String × Value)) : Prop :=
  ∃ ordered, ordered.Perm pairs ∧
    List.Forall₂ (fun pair member => member.1 = pair.1 ∧ Stands pair.2 member.2) ordered members

/-- The texts that write pairs of keys and values as arguments. -/
inductive Writes (pairs : List (String × String)) (text : String) : Prop
  | flat {members : List (String × Value)} :
    readValue text = .ok (.object members) → Flat pairs members → Writes pairs text
  | schema {members : List (String × Value)} :
    readValue text = .ok (.object members) →
      Echoes members (pairs.map fun (key, value) => { key, value }) → Writes pairs text

/-- Values that no command can tell apart. -/
structure ArgumentValues.Alike (values others : ArgumentValues) : Prop where
  get? : ∀ key, values.get? key = others.get? key
  require : ∀ key, values.require key = others.require key
  parseAs : ∀ {α : Type} (read? : String → Option α) (key : String),
    values.parseAs read? key = others.parseAs read? key

theorem ArgumentValues.Alike.of_raw {values others : ArgumentValues} (same : values.raw = others.raw) :
    values.Alike others := by
  have get (key : String) : values.get? key = others.get? key := by
    have value : lookupEntry key values.entries = lookupEntry key others.entries := congrFun same key
    rw [ArgumentValues.get?, ArgumentValues.get?, value]
  have require (key : String) : values.require key = others.require key := by
    rw [ArgumentValues.require, ArgumentValues.require, get]
  refine ⟨get, require, ?_⟩
  intro α read? key
  rw [ArgumentValues.parseAs, ArgumentValues.parseAs, require]

/-- What pairs give for a key. -/
theorem ArgumentValues.raw_ofPairs (pairs : List (String × String)) :
    (ofPairs pairs).raw = fun key => pairs.lookup key := by
  funext key
  exact (lookupEntry_map key id pairs).trans Option.map_id'

namespace Stands

variable {s : String} {value : Value}

theorem valueText_canonical (h : Stands s value) : ArgumentValues.valueText value.canonical = s := by
  cases h with
  | text s => rfl
  | number low high => exact String.ofList_toList

theorem reads (h : Stands s value) (depth : Nat) : Reads (Cursor.value depth) value.chars value := by
  cases h with
  | text s => exact Cursor.reads_value (.text s)
  | number low high => exact Cursor.reads_value_number depth low high

end Stands

namespace Flat

variable {pairs : List (String × String)} {members : List (String × Value)}

theorem map_lookup_of_forall₂ {ordered : List (String × String)}
    (all : List.Forall₂ (fun pair member => member.1 = pair.1 ∧ Stands pair.2 member.2) ordered members)
    (key : String) :
    (members.lookup key).map (fun value => ArgumentValues.valueText value.canonical) =
      ordered.lookup key := by
  induction all with
  | nil => rfl
  | @cons pair member _ _ first _ ih =>
      obtain ⟨name, text⟩ := pair
      obtain ⟨other, value⟩ := member
      obtain ⟨rfl, stands⟩ : other = name ∧ Stands text value := first
      rw [List.lookup_cons, List.lookup_cons]
      cases key == other with
      | true => exact congrArg some stands.valueText_canonical
      | false => exact ih

theorem stands_of_mem {ordered : List (String × String)} {member : String × Value}
    (all : List.Forall₂ (fun pair member => member.1 = pair.1 ∧ Stands pair.2 member.2) ordered members)
    (which : member ∈ members) : ∃ text, Stands text member.2 := by
  induction all with
  | nil => cases which
  | cons first _ ih =>
      rcases List.mem_cons.mp which with rfl | later
      · exact ⟨_, first.2⟩
      · exact ih later

theorem keys_perm (h : Flat pairs members) : (members.map Prod.fst).Perm (pairs.map Prod.fst) := by
  obtain ⟨ordered, perm, all⟩ := h
  have keys : members.map Prod.fst = ordered.map Prod.fst := by
    clear perm
    induction all with
    | nil => rfl
    | cons first _ ih => rw [List.map_cons, List.map_cons, first.1, ih]
  rw [keys]
  exact perm.map Prod.fst

/-- Where no key repeats, the members give each key the value of its pair. -/
theorem flatValue_eq (h : Flat pairs members) (distinct : (pairs.map Prod.fst).Nodup) :
    flatValue members = (ArgumentValues.ofPairs pairs).raw := by
  have own : (members.map Prod.fst).Nodup := h.keys_perm.symm.nodup distinct
  obtain ⟨ordered, perm, all⟩ := h
  rw [ArgumentValues.raw_ofPairs]
  funext key
  rw [flatValue, lastOf, ← Association.lookup_perm own members.reverse_perm.symm,
    map_lookup_of_forall₂ all, Association.lookup_perm ((perm.map Prod.fst).symm.nodup distinct) perm]

theorem lastOf_eq_none (h : Flat pairs members) {name : String} (absent : name ∉ pairs.map Prod.fst) :
    lastOf name members = none := by
  rw [lastOf, Association.lookup_eq_none_iff, List.map_reverse, List.mem_reverse, h.keys_perm.mem_iff]
  exact absent

/-- Such members are written as an object that is read back. -/
theorem readValue_compact (h : Flat pairs members) :
    readValue (Value.object members).compact = .ok (.object members) := by
  obtain ⟨ordered, -, all⟩ := h
  refine readValue_of_reads (Cursor.reads_value_object fun member which => ?_)
  obtain ⟨text, stands⟩ := stands_of_mem all which
  exact stands.reads 126

end Flat

namespace Writes

variable {pairs : List (String × String)} {text : String}

/-- A written text conveys what the pairs give. -/
theorem conveys (h : Writes pairs text) (distinct : (pairs.map Prod.fst).Nodup)
    (noEntries : "entries" ∉ pairs.map Prod.fst) : Conveys text (ArgumentValues.ofPairs pairs).raw := by
  cases h with
  | flat read flat =>
      rw [← flat.flatValue_eq distinct]
      exact .flat read (flat.lastOf_eq_none noEntries)
  | schema read echoes => exact .echoed read echoes

theorem ne_empty (h : Writes pairs text) : text ≠ "" := by
  cases h with
  | flat read _ => exact ne_empty_of_readValue read
  | schema read _ => exact ne_empty_of_readValue read

end Writes

namespace Negotiation

variable {α : Type} [CommandArguments α]

/-- How a negotiation ends with values that were read. -/
def withValues (values : ArgumentValues) (schema : ArgumentSchema) : Negotiation α :=
  match CommandArguments.ofValues values with
  | .ok arguments => .ready arguments
  | .error _ => .challenge schema

theorem ofData_eq_withValues {text : String} {values : ArgumentValues}
    (parsed : ArgumentValues.parse text = .ok values) (schema : ArgumentSchema) :
    (ofData text schema : Negotiation α) = withValues values schema := by
  rw [ofData, parsed]
  rfl

theorem withValues_of_raw [KeyedArguments α] {values others : ArgumentValues}
    (same : values.raw = others.raw) (schema : ArgumentSchema) :
    (withValues values schema : Negotiation α) = withValues others schema := by
  have taken (a : α) :
      CommandArguments.ofValues values = .ok a ↔ CommandArguments.ofValues others = .ok a := by
    rw [KeyedArguments.ofValues_eq_ok_iff, KeyedArguments.ofValues_eq_ok_iff, same]
  cases made : CommandArguments.ofValues (α := α) values with
  | ok a => rw [withValues, withValues, made, (taken a).mp made]
  | error reason =>
      cases made' : CommandArguments.ofValues (α := α) others with
      | ok a => cases made.symm.trans ((taken a).mpr made')
      | error reason' => rw [withValues, withValues, made, made']

end Negotiation

/-- All ways to write the pairs amount to the pairs. -/
structure EncodingsAgree (pairs : List (String × String)) : Prop where
  /-- An object is written as its members, in any order and with numbers for numerals. -/
  flat : ∀ members, Flat pairs members →
    Writes pairs (Value.object members).compact ∧
      Text.trim (Value.object members).compact = (Value.object members).compact
  /-- A schema with these entries is written as its JSON. -/
  schema : ∀ s : ArgumentSchema, s.entries = (ArgumentValues.ofPairs pairs).entries →
    Writes pairs s.toJson ∧ Text.trim s.toJson = s.toJson
  /-- Whatever is written is read, and no command can tell it from the pairs. -/
  parsed : ∀ text, Writes pairs text →
    ∃ values, ArgumentValues.parse text = .ok values ∧ values.Alike (.ofPairs pairs)
  /-- So every command gets what it gets from the pairs. -/
  negotiated : ∀ (α : Type) [CommandArguments α] [KeyedArguments α] (text : String) (s : ArgumentSchema),
    Writes pairs (Text.trim text) →
      (Negotiation.negotiate (some text) s : Negotiation α) = .withValues (.ofPairs pairs) s

theorem encodings_agree (pairs : List (String × String)) (distinct : (pairs.map Prod.fst).Nodup)
    (noEntries : "entries" ∉ pairs.map Prod.fst) : EncodingsAgree pairs where
  flat members flat := ⟨.flat flat.readValue_compact flat, trim_compact_object members⟩
  schema s same := by
    obtain ⟨members, object, echoes⟩ := s.echoes_toValue
    rw [same] at echoes
    have read : readValue s.toJson = .ok s.toValue := readValue_compact (s.nested 124)
    exact ⟨.schema (object ▸ read) echoes, s.trim_toJson⟩
  parsed text writes := by
    have conveys := writes.conveys distinct noEntries
    obtain ⟨values, parsed, filled⟩ := ArgumentValues.exists_parse.mpr conveys
    exact ⟨values, parsed, .of_raw filled⟩
  negotiated α _ _ text s writes := by
    have conveys := writes.conveys distinct noEntries
    obtain ⟨values, parsed, filled⟩ := ArgumentValues.exists_parse.mpr conveys
    rw [negotiate_solid writes.ne_empty, Negotiation.ofData_eq_withValues parsed,
      Negotiation.withValues_of_raw filled]

/-- A dimmer level, also written as a number and in the other order. -/
theorem level_encodings_agree :
    (["device", "level"].Nodup ∧ "entries" ∉ ["device", "level"]) ∧
      Flat [("device", "bulb"), ("level", "7")]
        [("level", .number (.integer 7)), ("device", .text "bulb")] ∧
      EncodingsAgree [("device", "bulb"), ("level", "7")] := by
  have distinct : ["device", "level"].Nodup := by decide
  have noEntries : "entries" ∉ ["device", "level"] := by decide
  have level : Stands "7" (.number (.integer 7)) := .number (n := 7) (by decide) (by decide)
  refine ⟨⟨distinct, noEntries⟩, ⟨_, .swap _ _ [], ?_⟩, encodings_agree _ distinct noEntries⟩
  exact .cons ⟨rfl, level⟩ (.cons ⟨rfl, .text "bulb"⟩ .nil)

end Switchboard
