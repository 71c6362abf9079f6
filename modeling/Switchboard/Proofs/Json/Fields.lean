import Switchboard.Proofs.Association
import Switchboard.Proofs.Json.Members
import Switchboard.Proofs.Json.Records

/-!
Records from members none of whose names repeats. A record is taken exactly when each of its fields decodes
the member of its name, or has none and may do without; afterwards a field holds what its own member says.
-/

namespace Switchboard.Json

theorem ofValue_map_eq_ok {α β : Type} {d : Decoder α} {f : α → β} {surplus : Surplus} {value : Value}
    {y : β} : (d.map f).ofValue surplus value = .ok y ↔ ∃ x, d.ofValue surplus value = .ok x ∧ f x = y := by
  rw [ofValue_map]
  cases d.ofValue surplus value with
  | error cause => exact ⟨nofun, fun ⟨_, impossible, _⟩ => nomatch impossible⟩
  | ok x =>
      constructor
      · intro made
        exact ⟨x, rfl, Except.ok.inj made⟩
      · rintro ⟨_, same, rfl⟩
        cases same
        rfl

section fields

variable {σ : Type} {surplus : Surplus} {seen : List String}

/-- Holds of a value that a field decodes, and of none if the field may be left out or was seen before. -/
def Field.Takes (surplus : Surplus) (seen : List String) (field : Field σ) : Option Value → Prop
  | some value => ∃ fill, field.decode.ofValue surplus value = .ok fill
  | none => field.required = true → field.name ∈ seen

theorem Field.takes_cons {field : Field σ} {name : String} (apart : field.name ≠ name)
    (value : Option Value) :
    field.Takes surplus (name :: seen) value ↔ field.Takes surplus seen value := by
  cases value with
  | none => simp only [Takes, List.mem_cons, apart, false_or]
  | some value => rfl

/-- Filling the field leaves what is shown of a record. -/
def Field.Keeps {α : Type} (get : σ → α) (field : Field σ) : Prop :=
  ∀ surplus value fill, field.decode.ofValue surplus value = .ok fill → ∀ r, get (fill r) = get r

theorem Field.keeps_map {α β : Type} {get : σ → α} {d : Decoder β} {set : β → σ → σ} {name : String}
    {required : Bool} (kept : ∀ x r, get (set x r) = get r) :
    Field.Keeps get ⟨name, required, d.map set⟩ := by
  intro surplus value fill taken r
  obtain ⟨x, -, rfl⟩ := ofValue_map_eq_ok.mp taken
  exact kept x r

namespace RecordShape

variable {shape : RecordShape σ} {record r : σ} {members : List (String × Value)} {name : String}
  {value : Value} {field : Field σ}

theorem field?_eq_some (known : shape.field? name = some field) :
    field ∈ shape.fields ∧ field.name = name := by
  rw [field?] at known
  have named := List.find?_some known
  exact ⟨List.mem_of_find?_eq_some known, beq_iff_eq.mp named⟩

theorem name_ne_of_field?_eq_none (unknown : shape.field? name = none) (mem : field ∈ shape.fields) :
    field.name ≠ name :=
  fun same => List.find?_eq_none.mp unknown field mem (beq_iff_eq.mpr same)

theorem complete_eq_ok : (∃ r, shape.complete seen record = .ok r) ↔ shape.Covers seen := by
  rw [complete, Covers]
  cases missing : shape.fields.find? fun field => field.required && !seen.contains field.name with
  | none =>
      refine iff_of_true ⟨record, rfl⟩ ?_
      intro field mem required
      simpa [required] using List.find?_eq_none.mp missing field mem
  | some field =>
      refine iff_of_false ?_ ?_
      · rintro ⟨_, impossible⟩
        cases impossible
      intro covers
      have uncovered := List.find?_some missing
      rw [Bool.and_eq_true, Bool.not_eq_true', List.contains_eq_mem, decide_eq_false_iff_not] at uncovered
      exact uncovered.2 (covers field (List.mem_of_find?_eq_some missing) uncovered.1)

theorem ofMembers_unknown (unknown : shape.field? name = none) (value : Value)
    (rest : List (String × Value)) :
    shape.ofMembers surplus ((name, value) :: rest) seen record =
      shape.ofMembers surplus rest seen record := by
  rw [ofMembers, unknown]

theorem ofMembers_known (known : shape.field? name = some field) (fresh : name ∉ seen) (value : Value)
    (rest : List (String × Value)) :
    shape.ofMembers surplus ((name, value) :: rest) seen record =
      match field.decode.ofValue surplus value with
      | .error cause => .error cause
      | .ok fill => shape.ofMembers surplus rest (name :: seen) (fill record) := by
  have unseen : ¬seen.contains name = true := by simpa using fresh
  rw [ofMembers, known]
  exact if_neg unseen

theorem fresh_rest {rest : List (String × Value)} (first : name ∉ rest.map Prod.fst)
    (later : ∀ member ∈ rest, member.1 ∉ seen) : ∀ member ∈ rest, member.1 ∉ name :: seen := by
  intro member mem
  rw [List.mem_cons, not_or]
  refine ⟨?_, later member mem⟩
  rintro rfl
  exact first (List.mem_map_of_mem mem)

theorem exists_ofMembers (named : (shape.fields.map Field.name).Nodup)
    (distinct : (members.map Prod.fst).Nodup) (fresh : ∀ member ∈ members, member.1 ∉ seen) (record : σ) :
    (∃ r, shape.ofMembers surplus members seen record = .ok r) ↔
      ∀ field ∈ shape.fields, field.Takes surplus seen (members.lookup field.name) := by
  induction members generalizing seen record with
  | nil => exact complete_eq_ok
  | cons member rest ih =>
      obtain ⟨name, value⟩ := member
      obtain ⟨first, distinct⟩ := List.nodup_cons.mp distinct
      obtain ⟨unseen, later⟩ := List.forall_mem_cons.mp fresh
      cases known : shape.field? name with
      | none =>
          rw [ofMembers_unknown known, ih distinct later record]
          refine forall₂_congr fun field mem => ?_
          rw [Value.lookup_cons_eq, if_neg (name_ne_of_field?_eq_none known mem)]
      | some own =>
          obtain ⟨ownMem, ownName⟩ := field?_eq_some known
          -- Field names are distinct, so the member concerns no other field.
          have apart : ∀ field ∈ shape.fields, field ≠ own → field.name ≠ name := by
            intro field mem other same
            exact other (List.inj_on_of_nodup_map named mem ownMem (same.trans ownName.symm))
          rw [ofMembers_known known unseen]
          cases taken : own.decode.ofValue surplus value with
          | error cause =>
              refine iff_of_false nofun ?_
              intro all
              have takes := all own ownMem
              rw [Value.lookup_cons_eq, if_pos ownName, Field.Takes, taken] at takes
              obtain ⟨fill, impossible⟩ := takes
              cases impossible
          | ok fill =>
              rw [ih distinct (fresh_rest first later) (fill record)]
              refine forall₂_congr fun field mem => ?_
              by_cases same : field = own
              · subst same
                rw [Value.lookup_cons_eq, if_pos ownName, ownName, Association.lookup_eq_none_iff.mpr first]
                refine iff_of_true ?_ ⟨fill, taken⟩
                intro _
                exact ownName ▸ List.mem_cons_self
              · have elsewhere := apart field mem same
                rw [Value.lookup_cons_eq, if_neg elsewhere, Field.takes_cons elsewhere]

theorem ofItems_cons_eq_ok {total index : Nat} {fields : List (Field σ)} {values : List Value} :
    shape.ofItems surplus total (field :: fields) (value :: values) index record = .ok r ↔
      ∃ fill, field.decode.ofValue surplus value = .ok fill ∧
        shape.ofItems surplus total fields values (index + 1) (fill record) = .ok r := by
  rw [ofItems]
  cases field.decode.ofValue surplus value with
  | error cause => exact ⟨nofun, fun ⟨_, impossible, _⟩ => nomatch impossible⟩
  | ok fill =>
      constructor
      · intro made
        exact ⟨fill, rfl, made⟩
      · rintro ⟨_, same, made⟩
        cases same
        exact made

/-- The record shows what a decoder makes of the member of one name, whatever the other members are. -/
structure Shows {α : Type} (shape : RecordShape σ) (surplus : Surplus) (name : String) (d : Decoder α)
    (get : σ → α) : Prop where
  own : ∃ field, shape.field? name = some field ∧ ∀ value fill,
    field.decode.ofValue surplus value = .ok fill → ∀ r, d.ofValue surplus value = .ok (get (fill r))
  others : ∀ other field value fill, other ≠ name → shape.field? other = some field →
    field.decode.ofValue surplus value = .ok fill → ∀ r, get (fill r) = get r

theorem Shows.of_ofMembers {α : Type} {d : Decoder α} {get : σ → α} (h : shape.Shows surplus name d get)
    (distinct : (members.map Prod.fst).Nodup) (fresh : ∀ member ∈ members, member.1 ∉ seen)
    (taken : shape.ofMembers surplus members seen record = .ok r) :
    match members.lookup name with
    | some value => d.ofValue surplus value = .ok (get r)
    | none => get r = get record := by
  induction members generalizing seen record with
  | nil =>
      rw [ofMembers, complete] at taken
      split at taken
      · cases taken
      · cases taken
        rfl
  | cons member rest ih =>
      obtain ⟨other, value⟩ := member
      obtain ⟨first, distinct⟩ := List.nodup_cons.mp distinct
      obtain ⟨unseen, later⟩ := List.forall_mem_cons.mp fresh
      rw [Value.lookup_cons_eq]
      cases known : shape.field? other with
      | none =>
          obtain ⟨field, isField, -⟩ := h.own
          have apart : name ≠ other := by
            rintro rfl
            rw [known] at isField
            cases isField
          rw [ofMembers_unknown known] at taken
          rw [if_neg apart]
          exact ih distinct later taken
      | some field =>
          rw [ofMembers_known known unseen] at taken
          cases decoded : field.decode.ofValue surplus value with
          | error cause =>
              rw [decoded] at taken
              cases taken
          | ok fill =>
              rw [decoded] at taken
              have rest' := ih distinct (fresh_rest first later) taken
              by_cases same : name = other
              · subst same
                obtain ⟨own, isField, holds⟩ := h.own
                obtain rfl : field = own := Option.some.inj (known.symm.trans isField)
                rw [Association.lookup_eq_none_iff.mpr first] at rest'
                rw [if_pos rfl]
                dsimp only at rest' ⊢
                rw [rest']
                exact holds value fill decoded record
              · rw [if_neg same]
                rw [h.others other field value fill (Ne.symm same) known decoded record] at rest'
                exact rest'

theorem Shows.of_standing {α : Type} {d : Decoder α} {get : σ → α} (h : shape.Shows surplus name d get)
    (taken : shape.decoder.ofValue surplus (Value.object members).canonical = .ok r) :
    match Value.lastOf name members with
    | some value => d.ofValue surplus value.canonical = .ok (get r)
    | none => get r = get shape.blank := by
  have shown := h.of_ofMembers (Value.distinct_standing members) (fun _ _ => List.not_mem_nil) taken
  rw [Value.lookup_standing] at shown
  cases here : Value.lastOf name members with
  | none =>
      rw [here] at shown
      exact shown
  | some value =>
      rw [here] at shown
      exact shown

/-- An object is taken when every field takes the last member of its name. -/
theorem exists_ofValue_object (named : (shape.fields.map Field.name).Nodup) :
    (∃ r, shape.decoder.ofValue surplus (Value.object members).canonical = .ok r) ↔
      ∀ field ∈ shape.fields,
        field.Takes surplus [] ((Value.lastOf field.name members).map Value.canonical) := by
  simp only [← Value.lookup_standing]
  exact exists_ofMembers named (Value.distinct_standing members) (fun _ _ => List.not_mem_nil) shape.blank

theorem shows_of_keeps {α : Type} {d : Decoder α} {get : σ → α} {set : α → σ → σ} {required : Bool}
    (known : shape.field? name = some ⟨name, required, d.map set⟩) (own : ∀ x r, get (set x r) = x)
    (others : ∀ field ∈ shape.fields, field.name = name ∨ field.Keeps get) :
    shape.Shows surplus name d get := by
  constructor
  · refine ⟨_, known, ?_⟩
    intro value fill taken r
    obtain ⟨x, read, rfl⟩ := ofValue_map_eq_ok.mp taken
    rw [own, read]
  · intro other field value fill apart known' taken r
    obtain ⟨listed, rfl⟩ := field?_eq_some known'
    rcases others field listed with same | keeps
    · exact absurd same apart
    · exact keeps surplus value fill taken r

end RecordShape

end fields

end Switchboard.Json
