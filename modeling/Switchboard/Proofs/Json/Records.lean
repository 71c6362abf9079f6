import Switchboard.Json.Decoder
import Switchboard.Proofs.Json.Values

/-!
Reading typed values. Whatever the order of its members, a record is read member by member: a known
name fills its field once and other names are passed over.
-/

namespace Switchboard.Json

open Cursor

/-- A text that is passed over as one value. -/
def Skips (text : List Char) : Prop :=
  ∀ (at' : Cursor) (rest : List Char), Delimits rest → at'.rest = text ++ rest →
    ∃ next : Cursor, next.rest = rest ∧ at'.skipValue = .ok next

section decoders

variable {α β : Type} {d : Decoder α} {text : List Char}

theorem ofValue_map (f : α → β) (d : Decoder α) (surplus : Surplus) (value : Value) :
    (d.map f).ofValue surplus value = (d.ofValue surplus value).map f := rfl

theorem reads_map {x : α} (f : α → β) (h : Reads d.read text x) : Reads (d.map f).read text (f x) := by
  intro at' rest ends here
  obtain ⟨next, left, read⟩ := h at' rest ends here
  refine ⟨next, left, ?_⟩
  simp only [Decoder.map, read]
  rfl

theorem reads_spelled {spelled : List Char} {s : String} (spelling : TextSpelling spelled s.toList) :
    Reads Decoder.text.read ('"' :: (spelled ++ ['"'])) s := by
  intro at' rest _ here
  rw [List.cons_append, List.append_assoc] at here
  have token : at'.token.rest = '"' :: (spelled ++ '"' :: rest) := token_rest allSpaces_nil (by decide) here
  obtain ⟨next, left, read⟩ := string_eq spelling token
  rw [String.ofList_toList] at read
  refine ⟨next, left, ?_⟩
  simp only [Decoder.text, token, read]

theorem reads_text (s : String) : Reads Decoder.text.read (Value.text s).chars s :=
  reads_spelled (textSpelling_flatMap s.toList)

theorem reads_optional {c : Char} {more : List Char} {x : α} (solid : isSpace c = false) (noNull : c ≠ 'n')
    (h : Reads d.read (c :: more) x) : Reads (Decoder.optional d).read (c :: more) (some x) := by
  intro at' rest ends here
  have token : at'.token.rest = c :: (more ++ rest) := token_rest allSpaces_nil solid here
  obtain ⟨next, left, read⟩ := reads_map some h at'.token rest ends token
  refine ⟨next, left, ?_⟩
  rw [← read, Decoder.optional]
  dsimp only
  split
  case h_1 heq =>
    rw [token] at heq
    cases heq
    exact absurd rfl noNull
  case h_2 => rfl

theorem reads_list {xs : List α} (h : ItemsText d.read true text xs) :
    Reads (Decoder.list d).read ('[' :: (text ++ [']'])) xs := by
  intro at' rest _ here
  rw [List.cons_append, List.append_assoc] at here
  have token := token_rest allSpaces_nil (by decide) here
  obtain ⟨next, left, read⟩ := items_eq h token
  refine ⟨next, left, ?_⟩
  simp only [Decoder.list, token, read]

/-- A list whose items are read back from how they are written. -/
theorem reads_list_map {write : α → Value} {xs : List α}
    (each : ∀ x ∈ xs, Reads d.read (write x).chars x ∧ StartsItem (write x).chars) :
    Reads (Decoder.list d).read (Value.list (xs.map write)).chars xs := by
  obtain ⟨text, chars, items⟩ := chars_list write xs each
  rw [chars]
  exact reads_list items

theorem reads_boolean (b : Bool) : Reads Decoder.boolean.read (Value.boolean b).chars b := by
  have literal (c : Char) (word : List Char) (solid : isSpace c = false)
      (reads : ∀ (at' : Cursor) (more : List Char), at'.token.rest = c :: more →
        Decoder.boolean.read at' = (letters word at'.token.advance).map fun after => (b, after)) :
      Reads Decoder.boolean.read (c :: word) b := by
    intro at' rest _ here
    have token := token_rest allSpaces_nil solid here
    obtain ⟨next, left, read⟩ := letters_eq word (advance_rest token)
    refine ⟨next, left, ?_⟩
    rw [reads at' _ token, read]
    rfl
  cases b with
  | true =>
      refine literal 't' ['r', 'u', 'e'] (by decide) ?_
      intro at' more here
      simp only [Decoder.boolean, here]
  | false =>
      refine literal 'f' ['a', 'l', 's', 'e'] (by decide) ?_
      intro at' more here
      simp only [Decoder.boolean, here]

/-- A whole text that is read is decoded. -/
theorem decode_of_reads {source : String} {x : α} (h : Reads d.read source.toList x) :
    d.decode source = .ok x := by
  obtain ⟨next, left, read⟩ := h (Cursor.start source) [] delimits_nil (List.append_nil _).symm
  simp only [Decoder.decode, read, finished_eq allSpaces_nil left]
  rfl

theorem decode_compact {v : Value} {x : α} (h : Reads d.read v.chars x) :
    d.decode v.compact = .ok x := by
  refine decode_of_reads ?_
  rwa [Value.compact, String.toList_ofList]

end decoders

namespace RecordShape

variable {σ : Type} (shape : RecordShape σ)

/-- The texts of members up to the closing brace, with the names seen and the record filled before and
after them. -/
inductive FieldsText : Bool → List String → σ → List Char → List String → σ → Prop
  | done {blank : List Char} (isFirst : Bool) (seen : List String) (record : σ) :
    AllSpaces blank → FieldsText isFirst seen record blank seen record
  | known {isFirst : Bool} {seen seen' : List String} {record record' : σ} {name : String}
    {head text more : List Char} {field : Field σ} {fill : σ → σ} :
    NameText isFirst head name → shape.field? name = some field → name ∉ seen →
    Reads field.decode.read text fill →
    FieldsText false (name :: seen) (fill record) more seen' record' →
      FieldsText isFirst seen record (head ++ (text ++ more)) seen' record'
  | other {isFirst : Bool} {seen seen' : List String} {record record' : σ} {name : String}
    {head text more : List Char} :
    NameText isFirst head name → shape.field? name = none → Skips text →
    FieldsText false seen record more seen' record' →
      FieldsText isFirst seen record (head ++ (text ++ more)) seen' record'

variable {shape} {seen seen' : List String} {record record' : σ} {text rest : List Char}

theorem FieldsText.delimits (h : shape.FieldsText false seen record text seen' record') :
    Delimits (text ++ '\x7d' :: rest) := by
  cases h with
  | done _ _ _ blanks => exact (delimits_cons rest (.inr (.inr (.inl rfl)))).after_spaces blanks
  | known name _ _ _ _ =>
      rw [List.append_assoc]
      exact name.delimits _
  | other name _ _ _ =>
      rw [List.append_assoc]
      exact name.delimits _

theorem membersFrom_eq {isFirst : Bool}
    (h : shape.FieldsText isFirst seen record text seen' record') {at' : Cursor}
    (here : at'.rest = text ++ '\x7d' :: rest) {fuel : Nat} (enough : text.length < fuel) :
    ∃ next : Cursor, next.rest = '\x7d' :: rest ∧
      shape.membersFrom fuel isFirst seen record at' = .ok (shape.complete seen' record', next) := by
  -- Every member has at least one character, so the length of the text is fuel enough.
  induction h generalizing at' fuel with
  | done isFirst seen record blanks =>
      obtain ⟨fuel, rfl⟩ : ∃ n, fuel = n + 1 := ⟨fuel - 1, by omega⟩
      refine ⟨at'.token, token_rest blanks (by decide) here, ?_⟩
      simp only [membersFrom, nextName_end _ blanks here]
  | @known isFirst seen seen' record record' name head text more field fill head' isField fresh reads
      tail ih =>
      have size := head'.length_pos
      simp only [List.length_append] at enough
      obtain ⟨fuel, rfl⟩ : ∃ n, fuel = n + 1 := ⟨fuel - 1, by omega⟩
      simp only [List.append_assoc] at here
      obtain ⟨place, next, after, step, named, colon, left⟩ := name_eq head' here
      obtain ⟨next', left, read⟩ := reads after _ tail.delimits left
      obtain ⟨last, left, all⟩ := ih left (show _ < fuel by omega)
      refine ⟨last, left, ?_⟩
      have unseen : seen.contains name = false := by simpa using fresh
      rw [membersFrom]
      simp only [step, named, isField, unseen, colon, read, all, Bool.false_eq_true, if_false]
  | @other isFirst seen seen' record record' name head text more head' unknown skips tail ih =>
      have size := head'.length_pos
      simp only [List.length_append] at enough
      obtain ⟨fuel, rfl⟩ : ∃ n, fuel = n + 1 := ⟨fuel - 1, by omega⟩
      simp only [List.append_assoc] at here
      obtain ⟨place, next, after, step, named, colon, left⟩ := name_eq head' here
      obtain ⟨next', left, skip⟩ := skips after _ tail.delimits left
      obtain ⟨last, left, all⟩ := ih left (show _ < fuel by omega)
      refine ⟨last, left, ?_⟩
      rw [membersFrom]
      simp only [step, named, unknown, colon, skip, all]

/-- An object is read as the record that its members fill. -/
theorem reads_decoder (h : shape.FieldsText true [] shape.blank text seen record)
    (complete : shape.complete seen record = .ok record') :
    Reads shape.decoder.read ('\x7b' :: (text ++ ['\x7d'])) record' := by
  intro at' rest _ here
  rw [List.cons_append, List.append_assoc] at here
  have token := token_rest allSpaces_nil (by decide) here
  have enough : text.length < at'.token.rest.length + 1 := by
    rw [token, List.length_cons, List.length_append]
    omega
  obtain ⟨last, left, read⟩ := membersFrom_eq h (advance_rest token) enough
  obtain ⟨next, left, close⟩ := closeObject_eq allSpaces_nil left
  refine ⟨next, left, ?_⟩
  rw [token] at read
  simp only [decoder, token, read, complete, close]
  rfl

/-- A member of a record as it is written: its name, its value and what it does to the record. -/
structure Member (σ : Type) where
  name : String
  value : Value
  fill : σ → σ

def Member.pair (p : Member σ) : String × Value :=
  (p.name, p.value)

/-- Holds of a member whose value its field reads. -/
def Member.Fits (shape : RecordShape σ) (p : Member σ) : Prop :=
  ∃ field, shape.field? p.name = some field ∧ Reads field.decode.read p.value.chars p.fill

theorem later_fresh {p : Member σ} {rest : List (Member σ)} (distinct : p.name ∉ rest.map Member.name)
    (fresh : ∀ q ∈ p :: rest, q.name ∉ seen) : ∀ q ∈ rest, q.name ∉ p.name :: seen := by
  intro q member clash
  rcases List.mem_cons.mp clash with same | old
  · exact distinct (same ▸ List.mem_map_of_mem member)
  · exact fresh q (List.mem_cons_of_mem _ member) old

theorem fieldsText_membersChars (members : List (Member σ)) (fits : ∀ p ∈ members, p.Fits shape)
    (distinct : (members.map Member.name).Nodup) (fresh : ∀ p ∈ members, p.name ∉ seen) (record : σ) :
    ∃ text, Value.membersChars (members.map Member.pair) = text ++ ['\x7d'] ∧
      shape.FieldsText false seen record text ((members.map Member.name).reverse ++ seen)
        (members.foldl (fun record p => p.fill record) record) := by
  induction members generalizing seen record with
  | nil => exact ⟨[], rfl, .done false seen record allSpaces_nil⟩
  | cons p rest ih =>
      rw [List.map_cons, List.nodup_cons] at distinct
      obtain ⟨more, chars, tail⟩ := ih (fun q member => fits q (List.mem_cons_of_mem _ member))
        distinct.2 (later_fresh distinct.1 fresh) (p.fill record)
      obtain ⟨field, isField, reads⟩ := fits p List.mem_cons_self
      have head := nameText_stringChars separates_comma p.name
      have names : ((p :: rest).map Member.name).reverse ++ seen =
          (rest.map Member.name).reverse ++ p.name :: seen := by simp
      rw [names]
      refine ⟨_, ?_, .known head isField (fresh p List.mem_cons_self) reads tail⟩
      rw [List.map_cons, Member.pair, Value.membersChars, chars]
      simp

/-- Holds when every field that may not be left out is among some names. -/
def Covers (shape : RecordShape σ) (names : List String) : Prop :=
  ∀ field ∈ shape.fields, field.required = true → field.name ∈ names

instance (shape : RecordShape σ) (names : List String) : Decidable (shape.Covers names) :=
  inferInstanceAs (Decidable (∀ field ∈ shape.fields, field.required = true → field.name ∈ names))

theorem complete_eq {names : List String} (covers : shape.Covers names) (record : σ) :
    shape.complete (names.reverse ++ []) record = .ok record := by
  have none : (shape.fields.find? fun field =>
      field.required && !(names.reverse ++ []).contains field.name) = none := by
    rw [List.find?_eq_none]
    intro field member
    cases required : field.required with
    | false => simp
    | true =>
        have := covers field member required
        simp_all
  rw [RecordShape.complete, none]

/-- A record that was written member by member is read back, if no required member is left out. -/
theorem reads_object (members : List (Member σ)) (fits : ∀ p ∈ members, p.Fits shape)
    (distinct : (members.map Member.name).Nodup) (covers : shape.Covers (members.map Member.name)) :
    Reads shape.decoder.read (Value.object (members.map Member.pair)).chars
      (members.foldl (fun record p => p.fill record) shape.blank) := by
  cases members with
  | nil =>
      have text : shape.FieldsText true [] shape.blank [] [] shape.blank :=
        .done true [] shape.blank allSpaces_nil
      exact reads_decoder text (complete_eq covers shape.blank)
  | cons p rest =>
      rw [List.map_cons, List.nodup_cons] at distinct
      obtain ⟨more, chars, tail⟩ := fieldsText_membersChars rest
        (fun q member => fits q (List.mem_cons_of_mem _ member)) distinct.2
        (later_fresh distinct.1 fun _ _ => List.not_mem_nil) (p.fill shape.blank)
      obtain ⟨field, isField, reads⟩ := fits p List.mem_cons_self
      have head := nameText_stringChars (.first allSpaces_nil) p.name
      have text := FieldsText.known head isField List.not_mem_nil reads tail
      have read := reads_decoder text (by simpa using complete_eq covers _)
      rw [List.map_cons, Member.pair, Value.chars, chars]
      simpa using read

/-- A record whose members fill it is read back from them. -/
theorem reads_record {members : List (Member σ)} {record : σ} (names : List String)
    (fits : ∀ p ∈ members, p.Fits shape) (named : members.map Member.name = names)
    (distinct : names.Nodup) (covers : shape.Covers names)
    (filled : members.foldl (fun record p => p.fill record) shape.blank = record) :
    Reads shape.decoder.read (Value.object (members.map Member.pair)).chars record := by
  subst named filled
  exact reads_object members fits distinct covers

/-- Holds of a member whose value its field takes. -/
def Member.Suits (shape : RecordShape σ) (surplus : Surplus) (p : Member σ) : Prop :=
  ∃ field, shape.field? p.name = some field ∧ field.decode.ofValue surplus p.value = .ok p.fill

theorem ofMembers_eq {surplus : Surplus} (members : List (Member σ))
    (suits : ∀ p ∈ members, p.Suits shape surplus) (distinct : (members.map Member.name).Nodup)
    (fresh : ∀ p ∈ members, p.name ∉ seen) (record : σ) :
    shape.ofMembers surplus (members.map Member.pair) seen record =
      shape.complete ((members.map Member.name).reverse ++ seen)
        (members.foldl (fun record p => p.fill record) record) := by
  induction members generalizing seen record with
  | nil => rfl
  | cons p rest ih =>
      rw [List.map_cons, List.nodup_cons] at distinct
      obtain ⟨field, isField, taken⟩ := suits p List.mem_cons_self
      have unseen : seen.contains p.name = false := by simpa using fresh p List.mem_cons_self
      have names : ((p :: rest).map Member.name).reverse ++ seen =
          (rest.map Member.name).reverse ++ p.name :: seen := by simp
      rw [List.map_cons, Member.pair, ofMembers, names]
      simp only [isField, unseen, taken, Bool.false_eq_true, if_false]
      exact ih (fun q member => suits q (List.mem_cons_of_mem _ member)) distinct.2
        (later_fresh distinct.1 fresh) (p.fill record)

/-- A record is taken from the value of its members, in whatever order they stand. -/
theorem ofValue_object {surplus : Surplus} (members : List (Member σ))
    (suits : ∀ p ∈ members, p.Suits shape surplus) (distinct : (members.map Member.name).Nodup)
    (covers : shape.Covers (members.map Member.name)) :
    shape.decoder.ofValue surplus (.object (members.map Member.pair)) =
      .ok (members.foldl (fun record p => p.fill record) shape.blank) := by
  rw [decoder]
  dsimp only
  rw [ofMembers_eq members suits distinct (fun p _ => List.not_mem_nil) shape.blank,
    complete_eq covers]

end RecordShape

end Switchboard.Json
