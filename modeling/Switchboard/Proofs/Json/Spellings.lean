import Switchboard.Proofs.Json.Skipping

/-!
The ways to write a record. The members of its object stand in any order, with spaces between all tokens and
with strings in any spelling, and other members stand among them; whichever way it is written, the record is
filled by the members that are its fields.
-/

namespace Switchboard.Json

/-- The ways to write a string. -/
inductive StringText (s : String) : List Char → Prop
  | quoted {spelled : List Char} : TextSpelling spelled s.toList → StringText s ('"' :: (spelled ++ ['"']))

/-- The ways to write a string that may be missing. -/
inductive OptionalText : Option String → List Char → Prop
  | null : OptionalText none ['n', 'u', 'l', 'l']
  | given {s : String} {text : List Char} : StringText s text → OptionalText (some s) text

/-- The ways to write strings up to the closing bracket; the flag holds before the first. -/
inductive StringsText : Bool → List Char → List String → Prop
  | done {isFirst : Bool} {blank : List Char} : AllSpaces blank → StringsText isFirst blank []
  | item {isFirst : Bool} {lead text more : List Char} {s : String} {strings : List String} :
    Separates isFirst lead → StringText s text → StringsText false more strings →
      StringsText isFirst (lead ++ (text ++ more)) (s :: strings)

/-- The ways to write a list of strings. -/
inductive ListText (strings : List String) : List Char → Prop
  | listed {text : List Char} : StringsText true text strings → ListText strings ('[' :: (text ++ [']']))

/-- The texts of an object up to its closing brace, with the name of each member and the text of its value; the
flag holds before the first. -/
inductive ObjectText : Bool → List Char → List (String × List Char) → Prop
  | done {isFirst : Bool} {blank : List Char} : AllSpaces blank → ObjectText isFirst blank []
  | member {isFirst : Bool} {head gap text more : List Char} {name : String}
    {members : List (String × List Char)} :
    NameText isFirst head name → AllSpaces gap → ObjectText false more members →
      ObjectText isFirst (head ++ (gap ++ (text ++ more))) ((name, text) :: members)

section strings

open Cursor

variable {gap text : List Char}

theorem reads_stringText {s : String} (gaps : AllSpaces gap) (string : StringText s text) :
    Reads Decoder.text.read (gap ++ text) s := by
  cases string with
  | quoted spelling =>
      refine reads_after_spaces (fun at' => ?_) gaps (by decide) (reads_spelled spelling)
      simp only [Decoder.text, token_token]

theorem reads_null {α : Type} (d : Decoder α) : Reads (Decoder.optional d).read ['n', 'u', 'l', 'l'] none := by
  intro at' rest _ here
  have token := token_rest allSpaces_nil (by decide) here
  obtain ⟨next, left, read⟩ := letters_eq ['u', 'l', 'l'] (advance_rest token)
  refine ⟨next, left, ?_⟩
  simp only [Decoder.optional, token, read]
  rfl

theorem reads_optionalText {given : Option String} (gaps : AllSpaces gap) (optional : OptionalText given text) :
    Reads (Decoder.optional Decoder.text).read (gap ++ text) given := by
  have skips (at' : Cursor) :
      (Decoder.optional Decoder.text).read at'.token = (Decoder.optional Decoder.text).read at' := by
    simp only [Decoder.optional, token_token]
  cases optional with
  | null => exact reads_after_spaces skips gaps (by decide) (reads_null _)
  | given string =>
      cases string with
      | quoted spelling =>
          have read := reads_optional (by decide) (by decide) (reads_spelled spelling)
          exact reads_after_spaces skips gaps (by decide) read

theorem itemsText_strings {isFirst : Bool} {strings : List String} (h : StringsText isFirst text strings) :
    ItemsText Decoder.text.read isFirst text strings := by
  induction h with
  | done blanks => exact .done _ blanks
  | item leads string _ ih =>
      have reads := reads_stringText allSpaces_nil string
      cases string with
      | quoted _ => exact .item leads ⟨'"', _, rfl, by decide, by decide⟩ reads ih

theorem reads_listText {strings : List String} (gaps : AllSpaces gap) (listed : ListText strings text) :
    Reads (Decoder.list Decoder.text).read (gap ++ text) strings := by
  cases listed with
  | listed inside =>
      refine reads_after_spaces (fun at' => ?_) gaps (by decide) (reads_list (itemsText_strings inside))
      simp only [Decoder.list, token_token]

end strings

section printed

theorem stringText_chars (s : String) : StringText s (Value.text s).chars :=
  .quoted (textSpelling_flatMap s.toList)

theorem stringsText_itemsChars (strings : List String) :
    ∃ text, Value.itemsChars (strings.map .text) = text ++ [']'] ∧ StringsText false text strings := by
  induction strings with
  | nil => exact ⟨[], rfl, .done allSpaces_nil⟩
  | cons s rest ih =>
      obtain ⟨more, chars, tail⟩ := ih
      refine ⟨_, ?_, .item separates_comma (stringText_chars s) tail⟩
      rw [List.map_cons, Value.itemsChars, chars]
      simp

theorem listText_chars (strings : List String) : ListText strings (Value.list (strings.map .text)).chars := by
  cases strings with
  | nil => exact .listed (.done allSpaces_nil)
  | cons s rest =>
      obtain ⟨more, chars, tail⟩ := stringsText_itemsChars rest
      have text := ListText.listed (.item (.first allSpaces_nil) (stringText_chars s) tail)
      rw [List.map_cons, Value.chars, chars]
      simpa using text

theorem objectText_membersChars (members : List (String × Value)) :
    ∃ text, Value.membersChars members = text ++ ['\x7d'] ∧
      ObjectText false text (members.map fun m => (m.1, m.2.chars)) := by
  induction members with
  | nil => exact ⟨[], rfl, .done allSpaces_nil⟩
  | cons m rest ih =>
      obtain ⟨more, chars, tail⟩ := ih
      refine ⟨_, ?_, .member (nameText_stringChars separates_comma m.1) allSpaces_nil tail⟩
      rw [Value.membersChars, chars]
      simp

/-- An object is printed as its members are written, without spaces. -/
theorem objectText_chars (members : List (String × Value)) :
    ∃ text, (Value.object members).chars = '\x7b' :: (text ++ ['\x7d']) ∧
      ObjectText true text (members.map fun m => (m.1, m.2.chars)) := by
  cases members with
  | nil => exact ⟨[], rfl, .done allSpaces_nil⟩
  | cons m rest =>
      obtain ⟨more, chars, tail⟩ := objectText_membersChars rest
      refine ⟨_, ?_, .member (nameText_stringChars (.first allSpaces_nil) m.1) allSpaces_nil tail⟩
      rw [Value.chars, chars]
      simp

end printed

namespace RecordShape

variable {σ : Type} {shape : RecordShape σ}

/-- The names of an object that are fields of a record. -/
def ownNames (shape : RecordShape σ) (members : List (String × List Char)) : List String :=
  (members.map Prod.fst).filter fun name => (shape.field? name).isSome

/-- Holds when each member that is a field does to the record what its name says, and any other member is a
value and does nothing. -/
def Fills (shape : RecordShape σ) (fill : String → σ → σ) (members : List (String × List Char)) : Prop :=
  ∀ m ∈ members,
    match shape.field? m.1 with
    | some field => ∀ gap, AllSpaces gap → Reads field.decode.read (gap ++ m.2) (fill m.1)
    | none => ValueText m.2 ∧ fill m.1 = id

/-- An object fills a record with its members, in whatever order they stand. -/
theorem fieldsText_of_objectText {fill : String → σ → σ} {isFirst : Bool} {text : List Char}
    {members : List (String × List Char)} {seen : List String} (h : ObjectText isFirst text members)
    (fills : shape.Fills fill members) (once : (shape.ownNames members).Nodup)
    (fresh : ∀ name ∈ shape.ownNames members, name ∉ seen) (record : σ) :
    ∃ seen', shape.FieldsText isFirst seen record text seen'
      ((members.map Prod.fst).foldl (fun record name => fill name record) record) := by
  induction h generalizing seen record with
  | done blanks => exact ⟨seen, .done _ seen record blanks⟩
  | @member isFirst head gap text more name members head' gaps tail ih =>
      obtain ⟨own, later⟩ := List.forall_mem_cons.mp fills
      rw [← List.append_assoc gap]
      cases isField : shape.field? name with
      | none =>
          rw [isField] at own
          have names : shape.ownNames ((name, text) :: members) = shape.ownNames members := by
            simp [ownNames, isField]
          rw [names] at once fresh
          obtain ⟨seen', rest⟩ := ih later once fresh record
          refine ⟨seen', .other head' isField (skips_value gaps own.1) ?_⟩
          rwa [List.map_cons, List.foldl_cons, own.2]
      | some field =>
          rw [isField] at own
          have names : shape.ownNames ((name, text) :: members) = name :: shape.ownNames members := by
            simp [ownNames, isField]
          rw [names] at once fresh
          obtain ⟨apart, once⟩ := List.nodup_cons.mp once
          have unseen : ∀ other ∈ shape.ownNames members, other ∉ name :: seen := by
            intro other inside clash
            rcases List.mem_cons.mp clash with rfl | old
            · exact apart inside
            · exact fresh other (List.mem_cons_of_mem _ inside) old
          obtain ⟨seen', rest⟩ := ih later once unseen (fill name record)
          exact ⟨seen', .known head' isField (fresh name List.mem_cons_self) (own gap gaps) rest⟩

end RecordShape

end Switchboard.Json
