import Mathlib.Data.List.Forall2
import Switchboard.Proofs.Argument.Negotiation
import Switchboard.Proofs.Json.Fields

/-!
What a text conveys as arguments. An object without a member for the entries gives every key its last member,
whatever kind of value that is. With such a member it is an echoed schema, or nothing can be read from it.
-/

namespace Switchboard

open Json Json.Value

/-- What an object that is no schema gives for a key. -/
def flatValue (members : List (String × Value)) (key : String) : Option String :=
  (lastOf key members).map fun value => ArgumentValues.valueText value.canonical

/-- A JSON value that is read as an entry of a schema; the value of the entry may be left out. -/
inductive EntryValue : Value → ArgumentEntry → Prop
  | named {members : List (String × Value)} {key value : String} :
    lastOf "key" members = some (.text key) → (lastOf "value" members).getD (.text "") = .text value →
      EntryValue (.object members) { key, value }
  | alone (key : String) : EntryValue (.list [.text key]) { key }
  | pair (key value : String) : EntryValue (.list [.text key, .text value]) { key, value }

/-- Members that are read as a schema with some entries. -/
structure Echoes (members : List (String × Value)) (entries : List ArgumentEntry) : Prop where
  command : ∃ command, lastOf "command" members = some (.text command)
  description : ∃ text, (lastOf "description" members).getD (.text "") = .text text
  usage : ∃ text, (lastOf "syntax" members).getD (.text "") = .text text
  entries : ∃ items, lastOf "entries" members = some (.list items) ∧ List.Forall₂ EntryValue items entries

/-- The values of keys that a text conveys, as they were written. -/
inductive Conveys (text : String) : (String → Option String) → Prop
  | flat {members : List (String × Value)} :
    readValue text = .ok (.object members) → lastOf "entries" members = none →
      Conveys text (flatValue members)
  | echoed {members : List (String × Value)} {entries : List ArgumentEntry} :
    readValue text = .ok (.object members) → Echoes members entries →
      Conveys text (lookupEntry · entries)

section values

variable {value : Value} {surplus : Surplus}

theorem canonical_eq_text {s : String} : value.canonical = .text s ↔ value = .text s := by
  cases value <;> simp [canonical]

theorem ofValue_text_eq_ok {s : String} :
    Decoder.text.ofValue surplus value = .ok s ↔ value = .text s := by
  cases value <;> simp [Decoder.text]

theorem mapM_eq_ok_iff {ε α β : Type} {f : α → Except ε β} {xs : List α} {ys : List β} :
    xs.mapM f = .ok ys ↔ List.Forall₂ (fun x y => f x = .ok y) xs ys := by
  induction xs generalizing ys with
  | nil =>
      rw [List.forall₂_nil_left_iff]
      exact ⟨fun same => (Except.ok.inj same).symm, fun none => none ▸ rfl⟩
  | cons x rest ih =>
      rw [List.mapM_cons, bind_eq_ok_iff, List.forall₂_cons_left_iff]
      simp only [bind_eq_ok_iff, ih]
      constructor
      · rintro ⟨y, first, ys', others, made⟩
        cases made
        exact ⟨y, ys', first, others, rfl⟩
      · rintro ⟨y, ys', first, others, rfl⟩
        exact ⟨y, first, ys', others, rfl⟩

theorem ofValue_list_eq_ok {α : Type} {d : Decoder α} {xs : List α} :
    (Decoder.list d).ofValue surplus value = .ok xs ↔
      ∃ items, value = .list items ∧ List.Forall₂ (fun item x => d.ofValue surplus item = .ok x) items xs := by
  cases value with
  | list items =>
      refine mapM_eq_ok_iff.trans ⟨fun all => ⟨items, rfl, all⟩, ?_⟩
      rintro ⟨_, same, all⟩
      cases same
      exact all
  | _ => exact ⟨nofun, fun ⟨_, impossible, _⟩ => nomatch impossible⟩

theorem canonical_eq_list {items : List Value} :
    value.canonical = .list items ↔ ∃ written, value = .list written ∧ items = written.map canonical := by
  cases value with
  | list written =>
      rw [canonical, canonicalItems_eq, list.injEq]
      refine ⟨fun same => ⟨written, rfl, same.symm⟩, ?_⟩
      rintro ⟨_, same, rfl⟩
      cases same
      rfl
  | _ =>
      constructor
      · intro impossible
        cases impossible
      · rintro ⟨_, impossible, _⟩
        cases impossible

theorem takes_map_iff {σ α : Type} {d : Decoder α} {set : α → σ → σ} {name : String} {required : Bool} :
    Field.Takes surplus [] ⟨name, required, d.map set⟩ (some value) ↔ ∃ x, d.ofValue surplus value = .ok x := by
  simp only [Field.Takes, ofValue_map_eq_ok]
  constructor
  · rintro ⟨_, x, taken, -⟩
    exact ⟨x, taken⟩
  · rintro ⟨x, taken⟩
    exact ⟨_, x, taken, rfl⟩

theorem takes_mandatory_text_iff {σ : Type} {set : String → σ → σ} {name : String} {found : Option Value} :
    Field.Takes surplus [] (.mandatory name .text set) (found.map canonical) ↔
      ∃ text, found = some (.text text) := by
  cases found with
  | none => simp [Field.Takes, Field.mandatory]
  | some value => simp [Field.mandatory, takes_map_iff, ofValue_text_eq_ok, canonical_eq_text]

theorem takes_text_iff {σ : Type} {set : String → σ → σ} {name : String} {found : Option Value} :
    Field.Takes surplus [] (.withDefault name .text set) (found.map canonical) ↔
      ∃ text, found.getD (.text "") = .text text := by
  cases found with
  | none => simp [Field.Takes, Field.withDefault]
  | some value => simp [Field.withDefault, takes_map_iff, ofValue_text_eq_ok, canonical_eq_text]

end values

namespace ArgumentEntry

variable {e : ArgumentEntry} {members : List (String × Value)}

theorem shows_key : shape.Shows .refused "key" .text ArgumentEntry.key := by
  refine RecordShape.shows_of_keeps rfl (fun _ _ => rfl) ?_
  intro field listed
  simp only [shape, List.mem_cons, List.not_mem_nil, or_false] at listed
  rcases listed with rfl | rfl
  · exact .inl rfl
  · exact .inr (Field.keeps_map fun _ _ => rfl)

theorem shows_value : shape.Shows .refused "value" .text ArgumentEntry.value := by
  refine RecordShape.shows_of_keeps rfl (fun _ _ => rfl) ?_
  intro field listed
  simp only [shape, List.mem_cons, List.not_mem_nil, or_false] at listed
  rcases listed with rfl | rfl
  · exact .inr (Field.keeps_map fun _ _ => rfl)
  · exact .inl rfl

theorem exists_ofValue_object :
    (∃ e, shape.decoder.ofValue .refused (Value.object members).canonical = .ok e) ↔
      (∃ key, lastOf "key" members = some (.text key)) ∧
        ∃ value, (lastOf "value" members).getD (.text "") = .text value := by
  rw [RecordShape.exists_ofValue_object (by decide)]
  simp only [shape, List.forall_mem_cons, takes_mandatory_text_iff, takes_text_iff]
  simp [Field.mandatory, Field.withDefault]

theorem ofValue_object_eq_ok :
    shape.decoder.ofValue .refused (Value.object members).canonical = .ok e ↔
      lastOf "key" members = some (.text e.key) ∧
        (lastOf "value" members).getD (.text "") = .text e.value := by
  have shown {e : ArgumentEntry}
      (taken : shape.decoder.ofValue .refused (Value.object members).canonical = .ok e) :
      lastOf "key" members = some (.text e.key) ∧
        (lastOf "value" members).getD (.text "") = .text e.value := by
    obtain ⟨⟨key, keyed⟩, value, valued⟩ := exists_ofValue_object.mp ⟨e, taken⟩
    have ownKey := shows_key.of_standing taken
    have ownValue := shows_value.of_standing taken
    rw [keyed] at ownKey
    cases Except.ok.inj ownKey
    refine ⟨keyed, ?_⟩
    cases given : lastOf "value" members with
    | none =>
        rw [given] at ownValue
        rw [ownValue]
        rfl
    | some found =>
        rw [given] at ownValue
        exact canonical_eq_text.mp (ofValue_text_eq_ok.mp ownValue)
  refine ⟨shown, ?_⟩
  rintro ⟨keyed, valued⟩
  obtain ⟨made, taken⟩ := exists_ofValue_object.mpr ⟨⟨_, keyed⟩, _, valued⟩
  obtain ⟨keyed', valued'⟩ := shown taken
  obtain ⟨key, value⟩ := e
  obtain ⟨key', value'⟩ := made
  cases keyed.symm.trans keyed'
  cases valued.symm.trans valued'
  exact taken

/-- As a list, an entry is its key, or its key and its value. -/
theorem ofValue_list_eq_ok {items : List Value} :
    shape.decoder.ofValue .refused (Value.list items).canonical = .ok e ↔
      items = [.text e.key] ∧ e.value = "" ∨ items = [.text e.key, .text e.value] := by
  obtain ⟨key, value⟩ := e
  rw [canonical, canonicalItems_eq]
  simp only [RecordShape.decoder, shape, Field.mandatory, Field.withDefault]
  rcases items with _ | ⟨first, _ | ⟨second, _ | ⟨third, rest⟩⟩⟩
  · rw [List.map_nil]
    simp [RecordShape.ofItems]
  · simp only [List.map_cons, List.map_nil, RecordShape.ofItems_cons_eq_ok, ofValue_map_eq_ok,
      ofValue_text_eq_ok, canonical_eq_text]
    simp [RecordShape.ofItems]
  · simp only [List.map_cons, List.map_nil, RecordShape.ofItems_cons_eq_ok, ofValue_map_eq_ok,
      ofValue_text_eq_ok, canonical_eq_text]
    simp [RecordShape.ofItems]
  · simp only [List.map_cons, RecordShape.ofItems_cons_eq_ok]
    simp [RecordShape.ofItems]

theorem ofValue_eq_ok {item : Value} :
    shape.decoder.ofValue .refused item.canonical = .ok e ↔ EntryValue item e := by
  cases item with
  | object members =>
      rw [ofValue_object_eq_ok]
      constructor
      · rintro ⟨keyed, valued⟩
        exact .named keyed valued
      · rintro ⟨keyed, valued⟩
        exact ⟨keyed, valued⟩
  | list items =>
      rw [ofValue_list_eq_ok]
      constructor
      · rintro (⟨rfl, none⟩ | rfl)
        · obtain ⟨key, value⟩ := e
          cases none
          exact .alone key
        · exact .pair e.key e.value
      · intro entry
        cases entry with
        | alone key => exact .inl ⟨rfl, rfl⟩
        | pair key value => exact .inr rfl
  | _ => exact ⟨nofun, nofun⟩

end ArgumentEntry

namespace ArgumentSchema

variable {s : ArgumentSchema} {members : List (String × Value)} {entries : List ArgumentEntry}

theorem ofValue_entries_eq_ok {value : Value} :
    (Decoder.list ArgumentEntry.shape.decoder).ofValue .refused value.canonical = .ok entries ↔
      ∃ items, value = .list items ∧ List.Forall₂ EntryValue items entries := by
  simp only [ofValue_list_eq_ok, canonical_eq_list]
  constructor
  · rintro ⟨_, ⟨items, rfl, rfl⟩, all⟩
    rw [List.forall₂_map_left_iff] at all
    exact ⟨items, rfl, all.imp fun _ _ => ArgumentEntry.ofValue_eq_ok.mp⟩
  · rintro ⟨items, rfl, all⟩
    refine ⟨_, ⟨items, rfl, rfl⟩, ?_⟩
    rw [List.forall₂_map_left_iff]
    exact all.imp fun _ _ => ArgumentEntry.ofValue_eq_ok.mpr

theorem shows_entries :
    shape.Shows .refused "entries" (.list ArgumentEntry.shape.decoder) ArgumentSchema.entries := by
  refine RecordShape.shows_of_keeps rfl (fun _ _ => rfl) ?_
  intro field listed
  simp only [shape, List.mem_cons, List.not_mem_nil, or_false] at listed
  rcases listed with rfl | rfl | rfl | rfl
  · exact .inr (Field.keeps_map fun _ _ => rfl)
  · exact .inr (Field.keeps_map fun _ _ => rfl)
  · exact .inr (Field.keeps_map fun _ _ => rfl)
  · exact .inl rfl

theorem exists_ofValue_object {value : Value} (given : lastOf "entries" members = some value) :
    (∃ s, shape.decoder.ofValue .refused (Value.object members).canonical = .ok s) ↔
      ∃ entries, Echoes members entries := by
  rw [RecordShape.exists_ofValue_object (by decide)]
  simp only [shape, List.forall_mem_cons, takes_mandatory_text_iff, takes_text_iff]
  simp only [Field.mandatory, Field.withDefault, given, Option.map_some, takes_map_iff, ofValue_entries_eq_ok]
  constructor
  · rintro ⟨command, description, usage, ⟨entries, items, rfl, all⟩, -⟩
    exact ⟨entries, command, description, usage, items, given, all⟩
  · rintro ⟨entries, command, description, usage, items, listed, all⟩
    obtain rfl : value = .list items := Option.some.inj (given.symm.trans listed)
    refine ⟨command, description, usage, ⟨entries, items, rfl, all⟩, ?_⟩
    intro field none
    cases none

theorem ofValue_object_eq_ok {value : Value} (given : lastOf "entries" members = some value) :
    (∃ s, shape.decoder.ofValue .refused (Value.object members).canonical = .ok s ∧ s.entries = entries) ↔
      Echoes members entries := by
  have shown {s : ArgumentSchema}
      (taken : shape.decoder.ofValue .refused (Value.object members).canonical = .ok s) :
      Echoes members s.entries := by
    obtain ⟨_, echoes⟩ := (exists_ofValue_object given).mp ⟨s, taken⟩
    have own := shows_entries.of_standing taken
    rw [given] at own
    obtain ⟨items, rfl, all⟩ := ofValue_entries_eq_ok.mp own
    exact { echoes with entries := ⟨items, given, all⟩ }
  constructor
  · rintro ⟨s, taken, rfl⟩
    exact shown taken
  · intro echoes
    obtain ⟨s, taken⟩ := (exists_ofValue_object given).mpr ⟨entries, echoes⟩
    refine ⟨s, taken, ?_⟩
    obtain ⟨items, listed, all⟩ := echoes.entries
    have own := shows_entries.of_standing taken
    rw [listed] at own
    exact Except.ok.inj (own.symm.trans (ofValue_entries_eq_ok.mpr ⟨items, rfl, all⟩))

/-- A schema is written as members that are read as its entries. -/
theorem echoes_toValue (s : ArgumentSchema) :
    ∃ members, s.toValue = .object members ∧ Echoes members s.entries := by
  refine ⟨_, rfl, ⟨_, rfl⟩, ⟨_, rfl⟩, ⟨_, rfl⟩, _, rfl, ?_⟩
  rw [List.forall₂_map_left_iff, List.forall₂_same]
  intro entry _
  exact .named rfl rfl

end ArgumentSchema

namespace ArgumentValues

variable {text : String} {members : List (String × Value)} {v : String → Option String}

theorem raw_standing (members : List (String × Value)) :
    raw ⟨(standing members).map fun (key, value) => { key, value := valueText value }⟩ =
      flatValue members := by
  funext key
  rw [raw, lookupEntry_map, lookup_standing, Option.map_map]
  rfl

/-- Without a member for the entries, the members themselves are the values. -/
theorem exists_ofMembers_flat (none : lastOf "entries" members = none) :
    (∃ values, ofMembers (standing members) = .ok values ∧ values.raw = v) ↔ flatValue members = v := by
  rw [ofMembers, any_standing, none]
  simp [raw_standing]

theorem exists_ofMembers_echoed {value : Value} (given : lastOf "entries" members = some value) :
    (∃ values, ofMembers (standing members) = .ok values ∧ values.raw = v) ↔
      ∃ entries, Echoes members entries ∧ (lookupEntry · entries) = v := by
  simp only [← ArgumentSchema.ofValue_object_eq_ok given]
  rw [ofMembers, any_standing, given, Option.isSome_some, if_pos rfl]
  cases taken : ArgumentSchema.shape.decoder.ofValue .refused (.object (standing members)) with
  | error cause =>
      constructor
      · rintro ⟨_, impossible, -⟩
        cases impossible
      · rintro ⟨_, ⟨_, impossible, -⟩, -⟩
        cases taken.symm.trans impossible
  | ok s =>
      constructor
      · rintro ⟨_, same, filled⟩
        cases same
        exact ⟨_, ⟨s, taken, rfl⟩, filled⟩
      · rintro ⟨_, ⟨_, same, rfl⟩, filled⟩
        cases taken.symm.trans same
        exact ⟨_, rfl, filled⟩

/-- What is read from a text is what it conveys. -/
theorem exists_parse : (∃ values, parse text = .ok values ∧ values.raw = v) ↔ Conveys text v := by
  constructor
  · rintro ⟨values, parsed, filled⟩
    rw [parse] at parsed
    cases read : readValue text with
    | error fault =>
        rw [read] at parsed
        cases parsed
    | ok value =>
        rw [read] at parsed
        cases value with
        | object members =>
            have taken : ∃ values, ofMembers (standing members) = .ok values ∧ values.raw = v :=
              ⟨values, parsed, filled⟩
            cases given : lastOf "entries" members with
            | none =>
                obtain rfl := (exists_ofMembers_flat given).mp taken
                exact .flat read given
            | some value =>
                obtain ⟨entries, echoes, rfl⟩ := (exists_ofMembers_echoed given).mp taken
                exact .echoed read echoes
        | _ => cases parsed
  · intro conveys
    cases conveys with
    | flat read none =>
        have taken := (exists_ofMembers_flat none).mpr rfl
        rw [parse, read]
        exact taken
    | echoed read echoes =>
        obtain ⟨items, given, -⟩ := echoes.entries
        have taken := (exists_ofMembers_echoed given).mpr ⟨_, echoes, rfl⟩
        rw [parse, read]
        exact taken

end ArgumentValues

end Switchboard
