import Switchboard.Proofs.Json.Printable
import Switchboard.Proofs.Json.Records
import Switchboard.Proofs.Payload.Lines

/-!
Messages as lines and back. The line of a message holds no control character, so that its only newline
is its end, and it is read as the message that was written.
-/

namespace Switchboard

open Json Json.RecordShape

namespace Payload

/-- The member of a field that may be missing. -/
def givenMember (name : String) (value : Option String) (fill : Option String → Payload → Payload) :
    List (Member Payload) :=
  match value with
  | some text => [⟨name, .text text, fill (some text)⟩]
  | none => []

/-- The members of a message as they are written. -/
def members (p : Payload) : List (Member Payload) :=
  ⟨"key", .text p.key, fun q => { q with key := p.key }⟩ ::
    (givenMember "action" p.action (fun action q => { q with action }) ++
      givenMember "data" p.data (fun data q => { q with data }) ++
      givenMember "response" p.response (fun response q => { q with response }) ++
      if p.commands.isEmpty then []
      else [⟨"commands", .list (p.commands.map .text), fun q => { q with commands := p.commands }⟩])

theorem map_pair_givenMember (name : String) (value : Option String)
    (fill : Option String → Payload → Payload) :
    (givenMember name value fill).map Member.pair = optionalMember name value := by
  cases value <;> rfl

theorem toValue_eq (p : Payload) : p.toValue = .object (p.members.map Member.pair) := by
  have commands : (if p.commands.isEmpty then ([] : List (Member Payload))
      else [⟨"commands", .list (p.commands.map .text), fun q => { q with commands := p.commands }⟩]).map
        Member.pair =
      if p.commands.isEmpty then [] else [("commands", .list (p.commands.map .text))] := by
    split <;> rfl
  rw [toValue, members, List.map_cons, List.map_append, List.map_append, List.map_append,
    map_pair_givenMember, map_pair_givenMember, map_pair_givenMember, commands]
  rfl

theorem reads_commands (commands : List String) :
    Reads (Decoder.list Decoder.text).read (Value.list (commands.map .text)).chars commands :=
  reads_list_map fun command _ => ⟨reads_text command, startsItem_chars (Nested.text command : Nested 0 _)⟩

theorem fits_givenMember {name : String} {value : Option String}
    {fill : Option String → Payload → Payload}
    (field : shape.field? name = some (.withDefault name (.optional .text) fill)) :
    ∀ m ∈ givenMember name value fill, m.Fits shape := by
  cases value with
  | none =>
      intro m member
      cases member
  | some text =>
      intro m member
      obtain rfl := List.mem_singleton.mp member
      exact ⟨_, field, reads_map _ (reads_optional (by decide) (by decide) (reads_text text))⟩

theorem fits (p : Payload) : ∀ m ∈ p.members, m.Fits shape := by
  intro m member
  simp only [members, List.mem_cons, List.mem_append] at member
  rcases member with rfl | ((action | data) | response) | commands
  · exact ⟨_, rfl, reads_map _ (reads_text _)⟩
  · exact fits_givenMember rfl m action
  · exact fits_givenMember rfl m data
  · exact fits_givenMember rfl m response
  · split at commands
    · cases commands
    · obtain rfl := List.mem_singleton.mp commands
      exact ⟨_, rfl, reads_map _ (reads_commands _)⟩

theorem nodup_names (p : Payload) : (p.members.map Member.name).Nodup := by
  obtain ⟨key, action, data, response, commands⟩ := p
  cases action <;> cases data <;> cases response <;> cases commands <;>
    simp [members, givenMember]

theorem fill_members (p : Payload) :
    p.members.foldl (fun q m => m.fill q) shape.blank = p := by
  obtain ⟨key, action, data, response, commands⟩ := p
  cases action <;> cases data <;> cases response <;> cases commands <;> rfl

theorem reads (p : Payload) : Reads shape.decoder.read p.toValue.chars p := by
  have covers : shape.Covers (p.members.map Member.name) := by
    intro field member required
    simp only [shape, List.mem_cons, List.not_mem_nil, or_false] at member
    rcases member with rfl | rfl | rfl | rfl | rfl <;> cases required
  have read := reads_object p.members p.fits p.nodup_names covers
  rwa [fill_members, ← toValue_eq] at read

theorem decodeStrict_encode (p : Payload) : decodeStrict p.encode = .ok p := by
  have trimmed : Text.trim p.encode = p.encode := trim_compact_object _
  rw [decodeStrict, trimmed, encode, decode_compact p.reads]

theorem nested (p : Payload) : Nested 2 p.toValue := by
  have given (name : String) (value : Option String) (fill : Option String → Payload → Payload) :
      ∀ m ∈ givenMember name value fill, Nested 1 m.value := by
    cases value with
    | none =>
        intro m member
        cases member
    | some text =>
        intro m member
        obtain rfl := List.mem_singleton.mp member
        exact .text text
  rw [toValue_eq]
  refine .object fun pair inside => ?_
  obtain ⟨m, member, rfl⟩ := List.mem_map.mp inside
  simp only [members, List.mem_cons, List.mem_append] at member
  rcases member with rfl | ((action | data) | response) | commands
  · exact .text p.key
  · exact given _ _ _ m action
  · exact given _ _ _ m data
  · exact given _ _ _ m response
  · split at commands
    · cases commands
    · obtain rfl := List.mem_singleton.mp commands
      refine .list fun item inside => ?_
      obtain ⟨command, -, rfl⟩ := List.mem_map.mp inside
      exact .text command

end Payload

/-- A byte below 128 in the encoding of a character is that character. -/
theorem toNat_of_mem_utf8EncodeChar {c : Char} {byte : UInt8} (member : byte ∈ String.utf8EncodeChar c)
    (ascii : byte.toNat < 128) : c.toNat = byte.toNat := by
  have code : c.val.toNat = c.toNat := rfl
  rw [String.utf8EncodeChar.eq_def, code] at member
  dsimp only at member
  split at member
  case isTrue low =>
    obtain rfl := List.mem_singleton.mp member
    rw [UInt8.toNat_ofNat']
    omega
  case isFalse =>
    -- All bytes of a longer encoding are at least 128.
    exfalso
    split at member
    · simp only [List.mem_cons, List.not_mem_nil, or_false] at member
      rcases member with rfl | rfl <;> rw [UInt8.toNat_ofNat'] at ascii <;> omega
    · split at member
      · simp only [List.mem_cons, List.not_mem_nil, or_false] at member
        rcases member with rfl | rfl | rfl <;> rw [UInt8.toNat_ofNat'] at ascii <;> omega
      · simp only [List.mem_cons, List.not_mem_nil, or_false] at member
        rcases member with rfl | rfl | rfl | rfl <;> rw [UInt8.toNat_ofNat'] at ascii <;> omega

theorem mem_toUTF8 {text : String} {byte : UInt8} :
    byte ∈ text.toUTF8.toList ↔ ∃ c ∈ text.toList, byte ∈ String.utf8EncodeChar c := by
  have encoded : text.toByteArray = text.toList.utf8Encode := by
    rw [← String.toByteArray_ofList, String.ofList_toList]
  rw [toList_toUTF8, encoded, List.utf8Encode, List.data_toByteArray, List.mem_flatMap]

theorem lineEnd_notMem_toUTF8 {text : String} (printable : Printable text.toList) :
    lineEnd ∉ text.toUTF8.toList := by
  intro member
  obtain ⟨c, inside, byte⟩ := mem_toUTF8.mp member
  have code : c.toNat = 10 := toNat_of_mem_utf8EncodeChar byte (by decide)
  have := printable c inside
  omega

/-- What writing and reading a message keep to. -/
structure CodecLaw (p : Payload) : Prop where
  /-- No character of the line is a control character. -/
  printable : ∀ c ∈ p.encode.toList, 0x20 ≤ c.toNat
  /-- The bytes that are sent hold one newline, at the end. -/
  count_lineEnd : p.encodeLine.count lineEnd = 1
  getLast?_encodeLine : p.encodeLine.getLast? = some lineEnd
  decodeStrict_encode : Payload.decodeStrict p.encode = .ok p
  decode_encode : Payload.decode p.encode = p

theorem codec_law (p : Payload) : CodecLaw p := by
  have printable : Printable p.encode.toList := by
    rw [Payload.encode, Value.compact, String.toList_ofList]
    exact printable_chars p.nested
  refine ⟨printable, ?_, ?_, p.decodeStrict_encode, ?_⟩
  · have none : p.encode.toUTF8.toList.count lineEnd = 0 :=
      List.count_eq_zero.mpr (lineEnd_notMem_toUTF8 printable)
    rw [Payload.encodeLine, List.count_append, none]
    rfl
  · rw [Payload.encodeLine, List.getLast?_append]
    rfl
  · rw [Payload.decode, p.decodeStrict_encode]

end Switchboard
