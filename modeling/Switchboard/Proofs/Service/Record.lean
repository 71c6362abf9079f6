import Switchboard.Proofs.Json.Numbers
import Switchboard.Proofs.Json.Records
import Switchboard.Service.Record

/-!
The service file: what was written is read back, whatever the service is called and wherever it is.
-/

namespace Switchboard

open Json

namespace ServiceRecord

/-- The texts of the members of a service file up to the closing brace, with what was taken from them
before and after. -/
inductive PartsText : Bool → Partial → List Char → Partial → Prop
  | done {blank : List Char} (isFirst : Bool) (r : Partial) :
    AllSpaces blank → PartsText isFirst r blank r
  | part {isFirst : Bool} {r r' r'' : Partial} {name : String} {head text more : List Char} :
    NameText isFirst head name → repeats name r = false → Reads (member name r) text r' →
    PartsText false r' more r'' → PartsText isFirst r (head ++ (text ++ more)) r''

variable {r r' : Partial} {text rest : List Char}

theorem PartsText.delimits (h : PartsText false r text r') : Delimits (text ++ '\x7d' :: rest) := by
  cases h with
  | done _ _ blanks => exact (delimits_cons rest (.inr (.inr (.inl rfl)))).after_spaces blanks
  | part name _ _ _ =>
      rw [List.append_assoc]
      exact name.delimits _

theorem membersFrom_eq {isFirst : Bool} (h : PartsText isFirst r text r') {at' : Cursor}
    (here : at'.rest = text ++ '\x7d' :: rest) {fuel : Nat} (enough : text.length < fuel) :
    ∃ next : Cursor, next.rest = '\x7d' :: rest ∧
      membersFrom fuel isFirst r at' = .ok (complete r', next) := by
  -- Every member has at least one character, so the length of the text is fuel enough.
  induction h generalizing at' fuel with
  | done isFirst r blanks =>
      obtain ⟨fuel, rfl⟩ : ∃ n, fuel = n + 1 := ⟨fuel - 1, by omega⟩
      refine ⟨at'.token, Cursor.token_rest blanks (by decide) here, ?_⟩
      simp only [membersFrom, Cursor.nextName_end _ blanks here]
  | @part isFirst r r' r'' name head text more head' fresh reads tail ih =>
      have size := head'.length_pos
      simp only [List.length_append] at enough
      obtain ⟨fuel, rfl⟩ : ∃ n, fuel = n + 1 := ⟨fuel - 1, by omega⟩
      simp only [List.append_assoc] at here
      obtain ⟨place, next, after, step, named, colon, left⟩ := Cursor.name_eq head' here
      obtain ⟨next', left, read⟩ := reads after _ tail.delimits left
      obtain ⟨last, left, all⟩ := ih left (show _ < fuel by omega)
      refine ⟨last, left, ?_⟩
      rw [membersFrom]
      simp only [step, named, fresh, colon, read, all, Bool.false_eq_true, if_false]

theorem ofJson_eq {source : String} {record : ServiceRecord} (h : PartsText true {} text r)
    (written : source.toList = '\x7b' :: (text ++ ['\x7d'])) (whole : complete r = .ok record) :
    ofJson source = .ok record := by
  have token : (Cursor.start source).token.rest = '\x7b' :: (text ++ '\x7d' :: []) :=
    Cursor.token_rest allSpaces_nil (by decide) written
  have opening : (Cursor.start source).token.opening? = some .object := by
    simp only [Cursor.opening?, token]
  have enough : text.length < (Cursor.start source).token.rest.length + 1 := by
    rw [token, List.length_cons, List.length_append]
    omega
  obtain ⟨last, left, read⟩ := membersFrom_eq h (Cursor.advance_rest token) enough
  obtain ⟨next, left, close⟩ := Cursor.closeObject_eq allSpaces_nil left
  have all : ServiceRecord.read (Cursor.start source) = .ok (record, next) := by
    simp only [ServiceRecord.read, opening, read, whole, close]
    rfl
  simp only [ofJson, all, Cursor.finished_eq allSpaces_nil left]

/-- A name on a line of its own, followed by a colon and a blank. -/
def lineHead (isFirst : Bool) (name : String) : List Char :=
  (if isFirst then ['\n', ' ', ' '] else [',', '\n', ' ', ' ']) ++ (stringChars name ++ [':'])

theorem nameText_lineHead (isFirst : Bool) (name : String) :
    NameText isFirst (lineHead isFirst name) name := by
  have blanks : AllSpaces ['\n', ' ', ' '] := allSpaces_of_all rfl
  cases isFirst with
  | true => exact nameText_stringChars (.first blanks) name
  | false => exact nameText_stringChars (@Separates.later [] _ allSpaces_nil blanks) name

theorem intercalate_cons {α : Type} (between first : List α) (others : List (List α)) :
    between.intercalate (first :: others) = first ++ others.flatMap (between ++ ·) := by
  induction others generalizing first with
  | nil => simp [List.intercalate]
  | cons second others ih =>
      have later := ih second
      rw [List.intercalate] at later ⊢
      rw [List.intersperse_cons_cons, List.flatten_cons, List.flatten_cons, later, List.flatMap_cons,
        List.append_assoc]

theorem toList_indented (first : String × Value) (others : List (String × Value)) :
    (Value.indented (first :: others)).toList = '\x7b' ::
      (lineHead true first.1 ++ (' ' :: first.2.chars ++
        (others.flatMap (fun p => lineHead false p.1 ++ ' ' :: p.2.chars) ++ ['\n'])) ++ ['\x7d']) := by
  rw [Value.indented, String.toList_append, String.toList_append, String.toList_intercalate, List.map_cons,
    List.map_cons, intercalate_cons, List.map_map, List.flatMap_map]
  simp [lineHead, Value.compact]

theorem member_token (name : String) (r : Partial) (at' : Cursor) :
    member name r at'.token = member name r at' := by
  simp only [member, natural_token, Cursor.value_token]

/-- What is taken from members that are written one to a line. -/
inductive Taken : Partial → List (String × Value) → Partial → Prop
  | nil (r : Partial) : Taken r [] r
  | cons {r r' r'' : Partial} {name : String} {value : Value} {rest : List (String × Value)} :
    repeats name r = false → StartsItem value.chars → Reads (member name r) value.chars r' →
      Taken r' rest r'' → Taken r ((name, value) :: rest) r''

theorem reads_line {name : String} {value : Value} (starts : StartsItem value.chars)
    (h : Reads (member name r) value.chars r') : Reads (member name r) (' ' :: value.chars) r' := by
  have blank : AllSpaces [' '] := allSpaces_of_all rfl
  obtain ⟨c, more, chars, solid, -⟩ := starts
  rw [chars] at h ⊢
  exact Cursor.reads_after_spaces (member_token name r) blank solid h

theorem Taken.partsText {others : List (String × Value)} (h : Taken r others r') :
    PartsText false r
      (others.flatMap (fun p => lineHead false p.1 ++ ' ' :: p.2.chars) ++ ['\n']) r' := by
  induction h with
  | nil r => exact .done false r (allSpaces_of_all rfl)
  | cons fresh starts reads _ ih =>
      rw [List.flatMap_cons, List.append_assoc, List.append_assoc]
      exact .part (nameText_lineHead false _) fresh (reads_line starts reads) ih

theorem ofJson_indented {first : String × Value} {others : List (String × Value)}
    {record : ServiceRecord} (h : Taken {} (first :: others) r) (whole : complete r = .ok record) :
    ofJson (Value.indented (first :: others)) = .ok record := by
  cases h with
  | cons fresh starts reads rest =>
      have text := PartsText.part (nameText_lineHead true _) fresh (reads_line starts reads) rest.partsText
      exact ofJson_eq text (toList_indented _ others) whole

section members

variable {name : String} {value : Value} {n : Nat}

theorem reads_other (noPid : (name == "pid") = false) (noTime : (name == "advertised_at") = false)
    (h : Reads (Cursor.value (greatestDepth - 1)) value.chars value) :
    Reads (member name r) value.chars { r with others := (name, value) :: r.others } := by
  intro at' rest ends here
  obtain ⟨next, left, read⟩ := h at' rest ends here
  refine ⟨next, left, ?_⟩
  simp only [member, noPid, noTime, read]
  rfl

theorem reads_pid (pid : UInt32) :
    Reads (member "pid" r) (Value.number (.integer pid.toNat)).chars { r with pid := some pid } := by
  intro at' rest ends here
  have small : pid.toNat < 2 ^ 32 := pid.toNat_lt
  have fits : pid.toNat ≤ greatestSignificand := le_greatestSignificand (Nat.lt_trans small (by decide))
  obtain ⟨next, left, read⟩ := reads_natural fits small at' rest ends here
  refine ⟨next, left, ?_⟩
  simp only [member, read, Except.map, UInt32.ofNat_toNat]
  rfl

theorem reads_time (time : UInt64) :
    Reads (member "advertised_at" r) (Value.number (.integer time.toNat)).chars
      { r with advertisedAt := some time } := by
  intro at' rest ends here
  have small : time.toNat < 2 ^ 64 := time.toNat_lt
  obtain ⟨next, left, read⟩ := reads_natural (le_greatestSignificand small) small at' rest ends here
  refine ⟨next, left, ?_⟩
  simp only [member, read, Except.map, UInt64.ofNat_toNat]
  rfl

end members

/-- The members of a service as they are written. -/
def serviceMembers (s : Service) : List (RecordShape.Member Service) :=
  [⟨"name", .text s.name, fun t => { t with name := s.name }⟩,
    ⟨"host", .text s.host, fun t => { t with host := s.host }⟩,
    ⟨"port", .number (.integer s.port.toNat), fun t => { t with port := s.port }⟩]

theorem suits (surplus : Surplus) (s : Service) :
    ∀ p ∈ serviceMembers s, p.Suits Service.shape surplus := by
  have port : (Decoder.natural 16).ofValue surplus (.number (.integer s.port.toNat)) = .ok s.port.toNat :=
    ofValue_natural surplus s.port.toNat_lt
  have same : UInt16.ofNat s.port.toNat = s.port := UInt16.ofNat_toNat
  intro p member
  simp only [serviceMembers, List.mem_cons, List.not_mem_nil, or_false] at member
  rcases member with rfl | rfl | rfl
  · exact ⟨_, rfl, rfl⟩
  · exact ⟨_, rfl, rfl⟩
  · refine ⟨.mandatory "port" (.natural 16) fun port s => { s with port := .ofNat port }, rfl, ?_⟩
    rw [Field.mandatory, ofValue_map, port, Except.map, same]

/-- What is taken from a whole service file. -/
def parts (record : ServiceRecord) : Partial where
  pid := some record.pid
  advertisedAt := some record.advertisedAt
  others := ((serviceMembers record.service).map RecordShape.Member.pair).reverse

theorem complete_parts (record : ServiceRecord) : complete record.parts = .ok record := by
  have names : (serviceMembers record.service).map RecordShape.Member.name = ["name", "host", "port"] := rfl
  have covers : Service.shape.Covers ["name", "host", "port"] := by decide
  have service := RecordShape.ofMembers_eq (serviceMembers record.service)
    (suits .counted record.service) (by rw [names]; decide) (fun _ _ => List.not_mem_nil) Service.shape.blank
  rw [names, RecordShape.complete_eq covers] at service
  rw [complete, parts]
  dsimp only
  rw [List.reverse_reverse, service]
  rfl

theorem startsItem_text (s : String) : StartsItem (Value.text s).chars :=
  @startsItem_chars 0 _ (.text s)

/-- A service file is read as the record that was written. -/
theorem ofJson_toJson (record : ServiceRecord) : ofJson record.toJson = .ok record := by
  have small : record.service.port.toNat < 2 ^ 16 := record.service.port.toNat_lt
  have port : record.service.port.toNat ≤ greatestSignificand :=
    le_greatestSignificand (Nat.lt_trans small (by decide))
  have taken : Taken {} _ record.parts :=
    .cons rfl (startsItem_text _) (reads_other rfl rfl (Cursor.reads_value (.text _))) <|
    .cons rfl (startsItem_text _) (reads_other rfl rfl (Cursor.reads_value (.text _))) <|
    .cons rfl (Cursor.startsItem_integer _) (reads_other rfl rfl (Cursor.reads_value_integer _ port)) <|
    .cons rfl (Cursor.startsItem_integer _) (reads_pid record.pid) <|
    .cons rfl (Cursor.startsItem_integer _) (reads_time record.advertisedAt) (.nil _)
  exact ofJson_indented taken record.complete_parts

end ServiceRecord

end Switchboard
