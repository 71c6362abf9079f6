import Switchboard.Proofs.Json.Spellings
import Switchboard.Proofs.Payload.Codec

/-!
Decoding does not depend on how a message is written. The members stand in any order and may be left out where
they say nothing, strings are spelled in any way, members of other names are passed over, and blanks of any kind
surround the object.
-/

namespace Switchboard.Payload

open Json Json.RecordShape

/-- The ways to write the value of a field. -/
inductive FieldText (p : Payload) : String → List Char → Prop
  | key {text : List Char} : StringText p.key text → FieldText p "key" text
  | action {text : List Char} : OptionalText p.action text → FieldText p "action" text
  | data {text : List Char} : OptionalText p.data text → FieldText p "data" text
  | response {text : List Char} : OptionalText p.response text → FieldText p "response" text
  | commands {text : List Char} : ListText p.commands text → FieldText p "commands" text

def fieldNames : List String :=
  ["key", "action", "data", "response", "commands"]

/-- Members that write a message, in any order and with other members among them. -/
structure Written (p : Payload) (members : List (String × List Char)) : Prop where
  fields : ∀ m ∈ members, m.1 ∈ fieldNames → p.FieldText m.1 m.2
  others : ∀ m ∈ members, m.1 ∉ fieldNames → ValueText m.2
  once : ((members.map Prod.fst).filter (· ∈ fieldNames)).Nodup
  key : "key" ∈ members.map Prod.fst ∨ p.key = ""
  action : "action" ∈ members.map Prod.fst ∨ p.action = none
  data : "data" ∈ members.map Prod.fst ∨ p.data = none
  response : "response" ∈ members.map Prod.fst ∨ p.response = none
  commands : "commands" ∈ members.map Prod.fst ∨ p.commands = []

/-- The texts that write a message. -/
inductive Spelled (p : Payload) : List Char → Prop
  | object {before inside after : List Char} {members : List (String × List Char)} :
    Text.Blanks before → ObjectText true inside members → p.Written members → Text.Blanks after →
      Spelled p (before ++ ('\x7b' :: (inside ++ ['\x7d']) ++ after))

variable {p : Payload} {name : String} {members : List (String × List Char)}

theorem fieldText_given {name : String} {value : Option String} {fill : Option String → Payload → Payload}
    (field : ∀ text, OptionalText value text → p.FieldText name text) :
    ∀ m ∈ givenMember name value fill, p.FieldText m.name m.value.chars := by
  cases value with
  | none => nofun
  | some text =>
      intro m member
      obtain rfl := List.mem_singleton.mp member
      exact field _ (.given (stringText_chars text))

theorem fieldText_members (p : Payload) : ∀ m ∈ p.members, p.FieldText m.name m.value.chars := by
  intro m member
  simp only [Payload.members, List.mem_cons, List.mem_append] at member
  rcases member with rfl | ((action | data) | response) | commands
  · exact .key (stringText_chars p.key)
  · exact fieldText_given (fun _ => .action) m action
  · exact fieldText_given (fun _ => .data) m data
  · exact fieldText_given (fun _ => .response) m response
  · split at commands
    · cases commands
    · obtain rfl := List.mem_singleton.mp commands
      exact .commands (listText_chars p.commands)

theorem FieldText.mem_fieldNames {text : List Char} (field : p.FieldText name text) : name ∈ fieldNames := by
  cases field <;> decide

theorem written_members (p : Payload) : p.Written (p.members.map fun m => (m.name, m.value.chars)) := by
  have names : (p.members.map fun m => (m.name, m.value.chars)).map Prod.fst = p.members.map Member.name := by
    rw [List.map_map]
    rfl
  have each : ∀ m ∈ p.members.map fun m => (m.name, m.value.chars), p.FieldText m.1 m.2 :=
    List.forall_mem_map.mpr p.fieldText_members
  have nodup := p.nodup_names
  refine ⟨fun m member _ => each m member, fun m member other => absurd (each m member).mem_fieldNames other,
    ?_, ?_, ?_, ?_, ?_, ?_⟩
  all_goals rw [names]
  · exact nodup.filter _
  all_goals obtain ⟨key, action, data, response, commands⟩ := p
  · exact .inl List.mem_cons_self
  · cases action <;> simp [members, givenMember]
  · cases data <;> simp [members, givenMember]
  · cases response <;> simp [members, givenMember]
  · cases commands <;> simp [members]

/-- The line of a message is one of the ways to write it. -/
theorem spelled_encode (p : Payload) : p.Spelled p.encode.toList := by
  obtain ⟨text, chars, object⟩ := objectText_chars (p.members.map Member.pair)
  rw [List.map_map] at object
  rw [encode, Value.compact, String.toList_ofList, toValue_eq, chars]
  have spelled := Spelled.object (by decide : Text.Blanks []) object p.written_members (by decide : Text.Blanks [])
  simpa using spelled

/-- What a member does to a message that is read. -/
def fill (p : Payload) (name : String) (q : Payload) : Payload where
  key := if name = "key" then p.key else q.key
  action := if name = "action" then p.action else q.action
  data := if name = "data" then p.data else q.data
  response := if name = "response" then p.response else q.response
  commands := if name = "commands" then p.commands else q.commands

theorem mem_fieldNames : name ∈ fieldNames ↔ (shape.field? name).isSome = true := by
  have names : fieldNames = shape.fields.map Field.name := rfl
  rw [names, List.mem_map, RecordShape.field?, List.find?_isSome]
  simp only [beq_iff_eq]

theorem fill_other (other : name ∉ fieldNames) : p.fill name = id := by
  simp only [fieldNames, List.mem_cons, List.not_mem_nil, or_false, not_or] at other
  obtain ⟨key, action, data, response, commands⟩ := other
  funext q
  rw [fill, if_neg key, if_neg action, if_neg data, if_neg response, if_neg commands]
  rfl

/-- Once all members are read, a field is that of the message if there was a member for it. -/
theorem foldl_fill {α : Type} {get : Payload → α}
    (step : ∀ other q, get (p.fill other q) = if other = name then get p else get q) (names : List String)
    (q : Payload) : get (names.foldl (fun q name => p.fill name q) q) = if name ∈ names then get p else get q := by
  induction names generalizing q with
  | nil => rfl
  | cons first rest ih =>
      rw [List.foldl_cons, ih, step]
      by_cases same : first = name
      · rw [if_pos same, ite_self, if_pos (same ▸ List.mem_cons_self)]
      · rw [if_neg same]
        simp only [List.mem_cons, Ne.symm same, false_or]

/-- The members of a message fill it, since those left out stand for what is there before. -/
theorem foldl_fill_eq (written : p.Written members) :
    (members.map Prod.fst).foldl (fun q name => p.fill name q) {} = p := by
  have field {α : Type} {get : Payload → α} {name : String}
      (step : ∀ other q, get (p.fill other q) = if other = name then get p else get q)
      (given : name ∈ members.map Prod.fst ∨ get p = get {}) :
      get ((members.map Prod.fst).foldl (fun q name => p.fill name q) {}) = get p := by
    rw [foldl_fill step]
    rcases given with present | default
    · rw [if_pos present]
    · rw [default, ite_self]
  have key := field (fun _ _ => rfl) written.key
  have action := field (fun _ _ => rfl) written.action
  have data := field (fun _ _ => rfl) written.data
  have response := field (fun _ _ => rfl) written.response
  have commands := field (fun _ _ => rfl) written.commands
  generalize (members.map Prod.fst).foldl (fun q name => p.fill name q) {} = q at *
  cases p
  cases q
  cases key
  cases action
  cases data
  cases response
  cases commands
  rfl

theorem fills (written : p.Written members) : shape.Fills p.fill members := by
  intro m member
  by_cases own : m.1 ∈ fieldNames
  · have text := written.fields m member own
    obtain ⟨name, value⟩ := m
    cases text with
    | key string => exact fun gap gaps => reads_map _ (reads_stringText gaps string)
    | action optional => exact fun gap gaps => reads_map _ (reads_optionalText gaps optional)
    | data optional => exact fun gap gaps => reads_map _ (reads_optionalText gaps optional)
    | response optional => exact fun gap gaps => reads_map _ (reads_optionalText gaps optional)
    | commands listed => exact fun gap gaps => reads_map _ (reads_listText gaps listed)
  · have unknown : shape.field? m.1 = none := Option.not_isSome_iff_eq_none.mp (mt mem_fieldNames.mpr own)
    rw [unknown]
    exact ⟨written.others m member own, fill_other own⟩

theorem ownNames_eq (members : List (String × List Char)) :
    shape.ownNames members = (members.map Prod.fst).filter (· ∈ fieldNames) := by
  refine List.filter_congr fun name _ => ?_
  rw [Bool.eq_iff_iff, decide_eq_true_eq, mem_fieldNames]

theorem reads_written {inside : List Char} (text : ObjectText true inside members) (written : p.Written members) :
    Reads shape.decoder.read ('\x7b' :: (inside ++ ['\x7d'])) p := by
  have once : (shape.ownNames members).Nodup := (ownNames_eq members).symm ▸ written.once
  obtain ⟨seen, fields⟩ :=
    fieldsText_of_objectText text (fills written) once (fun _ _ => List.not_mem_nil) shape.blank
  have filled : (members.map Prod.fst).foldl (fun q name => p.fill name q) shape.blank = p :=
    foldl_fill_eq written
  rw [filled] at fields
  exact reads_decoder fields rfl

/-- Whichever way a message is written, it is decoded as the message. -/
theorem decodeStrict_spelled {text : String} (spelled : p.Spelled text.toList) : decodeStrict text = .ok p := by
  have reads : Reads shape.decoder.read (Text.trim text).toList p := by
    rw [Text.trim, String.toList_ofList]
    generalize text.toList = chars at spelled
    cases spelled with
    | object front object written back =>
        rw [Text.trimChars_surrounded _ front back, Text.trimChars_of_solid _ (by decide) (by decide)]
        exact reads_written object written
  rw [decodeStrict, decode_of_reads reads]

def grin : Payload :=
  { key := "😀", commands := ["a/b"] }

/-- A text between two blanks that are no JSON spaces, with an escaped name and with half a surrogate pair in a
member that is passed over. -/
def grinText : String :=
  "\u00a0\x7b\"note\":[1.5e3 ,\x7b\"\\ud800\":[]\x7d],\"data\": null,\"\\u006bey\":\"\\ud83d\\ude00\"," ++
    "\"commands\":[\"a\\/b\"]\x7d\u2003"

theorem valueText_note : ValueText "[1.5e3 ,\x7b\"\\ud800\":[]\x7d]".toList := by
  have none := allSpaces_nil
  have number : UnsignedText (['1'] ++ (['.', '5'] ++ ['e', '3'])) :=
    .parts (by decide) (by decide) (.some (by decide)) (.some (.inl rfl) (.inl rfl) (by decide))
  have empty : ValueText ['[', ']'] := .nested .list (.done none)
  have half := QuotedText.unicode ['d', '8', '0', '0'] 0xd800 rfl (by decide) .nil
  have object := JsonText.nested .object (.item (.member (.first none) half none none) empty (.done none))
  have more := JsonText.item (.item (.later (allSpaces_of_all (by decide : [' '].all isSpace = true)) none)) object
    (.done none)
  exact JsonText.nested .list (.item (.item (.first none)) (.scalar (.positive number)) more)

theorem written_grin :
    grin.Written [("note", "[1.5e3 ,\x7b\"\\ud800\":[]\x7d]".toList), ("data", "null".toList),
      ("key", "\"\\ud83d\\ude00\"".toList), ("commands", "[\"a\\/b\"]".toList)] where
  fields := by
    have face : TextSpelling "\\ud83d\\ude00".toList grin.key.toList :=
      .cons (.pair ['d', '8', '3', 'd'] ['d', 'e', '0', '0'] 0xd83d 0xde00 rfl (by decide) (by decide)
        (by decide) rfl (by decide) (by decide) (by decide)) .nil
    have command : TextSpelling "a\\/b".toList "a/b".toList :=
      .cons (.plain 'a' (by decide) (by decide) (by decide))
        (.cons (.simple '/' '/' rfl) (.cons (.plain 'b' (by decide) (by decide) (by decide)) .nil))
    have commands : ListText grin.commands "[\"a\\/b\"]".toList :=
      .listed (.item (.first allSpaces_nil) (.quoted command) (.done allSpaces_nil))
    simp only [List.forall_mem_cons]
    exact ⟨fun own => absurd own (by decide), fun _ => .data .null, fun _ => .key (.quoted face),
      fun _ => .commands commands, nofun⟩
  others := by
    simp only [List.forall_mem_cons]
    exact ⟨fun _ => valueText_note, fun other => absurd (by decide) other, fun other => absurd (by decide) other,
      fun other => absurd (by decide) other, nofun⟩
  once := by decide
  key := .inl (by decide)
  action := .inr rfl
  data := .inr rfl
  response := .inr rfl
  commands := .inl (by decide)

theorem spelled_grin : grin.Spelled grinText.toList := by
  have none := allSpaces_nil
  have space : AllSpaces [' '] := allSpaces_of_all rfl
  have name : TextSpelling "\\u006bey".toList "key".toList :=
    .cons (.unicode ['0', '0', '6', 'b'] 0x6b rfl (by decide) (.inl (by decide)))
      (.cons (.plain 'e' (by decide) (by decide) (by decide))
        (.cons (.plain 'y' (by decide) (by decide) (by decide)) .nil))
  have text := Spelled.object (by decide : Text.Blanks ['\u00a0'])
    (.member (nameText_stringChars (.first none) "note") none
      (.member (nameText_stringChars separates_comma "data") space
        (.member (.quoted separates_comma name none) none
          (.member (nameText_stringChars separates_comma "commands") none (.done none)))))
    written_grin (by decide : Text.Blanks ['\u2003'])
  convert text using 1
  decide +kernel

theorem decodeStrict_grin : grin.Spelled grinText.toList ∧ decodeStrict grinText = .ok grin :=
  ⟨spelled_grin, decodeStrict_spelled spelled_grin⟩

end Switchboard.Payload
